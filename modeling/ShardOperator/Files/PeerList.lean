import ShardOperator.Desired.Names
import ShardOperator.Files.Exclusion
import ShardOperator.Files.Xml

namespace ShardOperator.PeerList

/-- The section that lists every host as a shard of its own. -/
def allSharded : String := "all-sharded"

def boolText (b : Bool) : String := if b then "true" else "false"

def int32Text (n : Int32) : String := toString n.toInt

def writeReplica (w : XmlWriter) (host : Host) : XmlWriter :=
  let w := w.openTag "replica"
  let w := w.element "host" host.address.workloadName
  let w := w.element "port" (int32Text host.tcpPort)
  w.closeTag "replica"

def writeShard (c : Cluster) (w : XmlWriter) (shard : Shard) (hosts : List Host) : XmlWriter :=
  let replicated := decide (1 < (c.shardHosts shard.index).length)
  let w := w.openTag "shard"
  let w := match shard.weight with
    | some weight => w.element "weight" (toString weight.toNat)
    | none => w
  let w := w.element "internal_replication" (boolText (shard.internalReplication.getD replicated))
  (hosts.foldl writeReplica w).closeTag "shard"

/-- The shards of a cluster that keep a host, each with the hosts that it keeps. -/
def listed (c : Cluster) (e : Exclusion) : List (Shard × List Host) :=
  (c.shards.map fun shard => (shard, (c.shardHosts shard.index).filter e.includes)).filter
    (!·.2.isEmpty)

/-- A cluster without a listed host is left out. -/
def writeCluster (e : Exclusion) (w : XmlWriter) (c : Cluster) : XmlWriter :=
  match listed c e with
  | [] => w
  | shards =>
    (shards.foldl (fun w s => writeShard c w s.1 s.2) (w.openTag c.name)).closeTag c.name

def writeAllSharded (w : XmlWriter) (hosts : List Host) : XmlWriter :=
  if hosts.isEmpty then w
  else
    let write (w : XmlWriter) (host : Host) : XmlWriter :=
      let opened := (w.openTag "shard").element "internal_replication" "false"
      (writeReplica opened host).closeTag "shard"
    (hosts.foldl write (w.openTag allSharded)).closeTag allSharded

/-- The peers that every server of the installation knows, without the excluded hosts. -/
def render (i : Installation) (e : Exclusion) : String :=
  let w := XmlWriter.document.openTagWith "remote_servers" "replace" "true"
  let w := i.clusters.foldl (writeCluster e) w
  let w := writeAllSharded w (i.hosts.filter e.includes)
  (w.closeTag "remote_servers").finish

end ShardOperator.PeerList
