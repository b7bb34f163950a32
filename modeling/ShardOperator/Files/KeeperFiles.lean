import ShardOperator.Files.ServerFiles

namespace ShardOperator.KeeperFiles

def configFile : String := "keeper_config.xml"
def serverIdFile : String := "chop-generated-keeper-server-id.xml"

/-- The port on which coordination servers talk to each other. -/
def raftPort : Nat := 9444

/-- A server's id is its place among all hosts, counted from one. Exclusions do not change it. -/
def serverId? (i : Installation) (host : Host) : Option Nat :=
  (i.hosts.findIdx? (·.id = host.id)).map (· + 1)

def writeServer (w : XmlWriter) (id : Nat) (host : Host) : XmlWriter :=
  let w := (w.openTag "server").element "id" (toString id)
  let w := w.element "hostname" host.address.workloadName
  (w.element "port" (toString raftPort)).closeTag "server"

def config (i : Installation) (e : Exclusion) : String :=
  let w := XmlWriter.document.openTag "keeper_server"
  let w := w.element "log_storage_path" "/var/lib/clickhouse-keeper/coordination/logs"
  let w := w.element "snapshot_storage_path" "/var/lib/clickhouse-keeper/coordination/snapshots"
  let w := w.openTag "raft_configuration"
  let listed := i.hosts.zipIdx.filter (e.includes ·.1)
  let w := listed.foldl (fun w s => writeServer w (s.2 + 1) s.1) w
  ((w.closeTag "raft_configuration").closeTag "keeper_server").finish

def common (i : Installation) (e : Exclusion) : FileSet :=
  (SortedMap.ofList [(configFile, config i e)]).override (i.files.files .common true)

def serverIdDocument (host : Host) (id : Nat) : String :=
  let w := (XmlWriter.document.openTag "keeper_server").element "server_id" (toString id)
  ((w.element "tcp_port" (PeerList.int32Text host.tcpPort)).closeTag "keeper_server").finish

/-- A host that is not part of the installation has no id. -/
def host (i : Installation) (host : Host) : FileSet :=
  let generated := (serverId? i host).map fun id => (serverIdFile, serverIdDocument host id)
  (SortedMap.ofList generated.toList).override (host.files.files .host false)

end ShardOperator.KeeperFiles
