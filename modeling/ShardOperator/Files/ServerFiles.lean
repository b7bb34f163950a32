import ShardOperator.Files.PeerList

namespace ShardOperator

/-- Files by name. -/
abbrev FileSet := SortedMap String

namespace ServerFiles

def remoteServersFile : String := "chop-generated-remote_servers.xml"
def zookeeperFile : String := "chop-generated-zookeeper.xml"
def settingsFile : String := "chop-generated-settings.xml"
def usersFile : String := "chop-generated-users.xml"
def profilesFile : String := "chop-generated-profiles.xml"
def quotasFile : String := "chop-generated-quotas.xml"
def macrosFile : String := "chop-generated-macros.xml"
def hostPortsFile : String := "chop-generated-hostname-ports.xml"
def hostSettingsFile : String := "chop-generated-host-settings.xml"

def defaultZookeeperPort : Int32 := 2181

/-- An element for a value that is given. -/
def optionalElement (w : XmlWriter) (tag : String) : Option String → XmlWriter
  | some value => w.element tag value
  | none => w

def writeZookeeperNode (w : XmlWriter) (node : ZookeeperNode) : XmlWriter :=
  let w := (w.openTag "node").element "host" node.host
  (w.element "port" (PeerList.int32Text (node.port.getD defaultZookeeperPort))).closeTag "node"

/-- There is nothing to write without an ensemble. -/
def zookeeper? (i : Installation) : Option String :=
  if i.zookeeper.nodes.isEmpty then none
  else
    let w := i.zookeeper.nodes.foldl writeZookeeperNode (XmlWriter.document.openTag "zookeeper")
    let timeout (n : Option UInt32) := n.map fun n => toString n.toNat
    let w := optionalElement w "session_timeout_ms" (timeout i.zookeeper.sessionTimeoutMs)
    let w := optionalElement w "operation_timeout_ms" (timeout i.zookeeper.operationTimeoutMs)
    let w := optionalElement w "root" i.zookeeper.root
    let w := optionalElement w "identity" i.zookeeper.identity
    let w := (w.closeTag "zookeeper").openTag "distributed_ddl"
    let w := w.element "path" ("/clickhouse/" ++ i.name ++ "/task_queue/ddl")
    some (w.closeTag "distributed_ddl").finish

def settingsUnder (tag : String) (s : Settings) : String :=
  (((XmlWriter.document.openTag tag).settings s).closeTag tag).finish

def settingsDocument (s : Settings) : String := (XmlWriter.document.settings s).finish

def settingsIfAny (file : String) (s : Settings) : List (String × String) :=
  if s.isEmpty then [] else [(file, settingsDocument s)]

def macros (host : Host) : String :=
  let w := XmlWriter.document.openTag "macros"
  let w := w.element "installation" host.address.installation
  let w := w.element "cluster" host.address.cluster
  let w := w.element "shard" host.address.shard
  let w := w.element "replica" host.address.workloadName
  (w.closeTag "macros").finish

def hostPorts (host : Host) : String :=
  let w := XmlWriter.document.element "interserver_http_host" host.address.workloadName
  let w := w.element "http_port" (PeerList.int32Text host.httpPort)
  let w := w.element "tcp_port" (PeerList.int32Text host.tcpPort)
  let w := w.element "interserver_http_port" (PeerList.int32Text host.interserverPort)
  w.finish

/-- Files shared by every host. Declared files replace generated ones of the same name. -/
def common (i : Installation) (e : Exclusion) : FileSet :=
  let generated := [(remoteServersFile, PeerList.render i e)] ++
    ((zookeeper? i).map fun text => (zookeeperFile, text)).toList ++
    settingsIfAny settingsFile i.settings
  (SortedMap.ofList generated).override (i.files.files .common true)

/-- Users, profiles and quotas, shared by every host. -/
def users (i : Installation) : FileSet :=
  (SortedMap.ofList [
    (usersFile, settingsUnder "users" i.users),
    (profilesFile, settingsUnder "profiles" i.profiles),
    (quotasFile, settingsUnder "quotas" i.quotas)]).override (i.files.files .users false)

def host (host : Host) : FileSet :=
  let generated := [(macrosFile, macros host), (hostPortsFile, hostPorts host)] ++
    settingsIfAny hostSettingsFile host.settings
  (SortedMap.ofList generated).override (host.files.files .host false)

end ServerFiles

end ShardOperator
