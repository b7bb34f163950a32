import ShardOperator.Json.Parts
import ShardOperator.Topology.Installation
import ShardOperator.View.Error

namespace ShardOperator

/-- The three indices; those that are missing are zero. -/
def HostId.ofJson (j : Json) : HostId :=
  let index (i : Nat) : Nat := (j.items[i]?.map Json.natural).getD 0
  ⟨index 0, index 1, index 2⟩

/-- The flags that are named. -/
def HostFlags.ofJson (j : Json) : HostFlags where
  add := j.texts.contains "add"
  remove := j.texts.contains "remove"
  modify := j.texts.contains "modify"
  found := j.texts.contains "found"
  ready := j.texts.contains "ready"

/-- The parts that are missing are empty. -/
def HostAddress.ofJson (j : Json) : HostAddress where
  ns := j.textPart "namespace"
  installation := j.textPart "installation"
  cluster := j.textPart "cluster"
  clusterIndex := j.natPart "clusterIndex"
  shard := j.textPart "shard"
  shardIndex := j.natPart "shardIndex"
  replica := j.textPart "replica"
  replicaIndex := j.natPart "replicaIndex"
  host := j.textPart "host"

def HostAddress.toJson (a : HostAddress) : Json := .obj [
  ("namespace", .str a.ns), ("installation", .str a.installation), ("cluster", .str a.cluster),
  ("clusterIndex", .ofNat a.clusterIndex), ("shard", .str a.shard),
  ("shardIndex", .ofNat a.shardIndex), ("replica", .str a.replica),
  ("replicaIndex", .ofNat a.replicaIndex), ("host", .str a.host)]

def Host.toJson (h : Host) : Json := .obj [
  ("id", .str h.id.text), ("name", .str h.name), ("namespace", .str h.ns),
  ("address", h.address.toJson), ("tcp", .ofInt32 h.tcpPort), ("http", .ofInt32 h.httpPort),
  ("interserver", .ofInt32 h.interserverPort), ("settings", h.settings.toJson),
  ("files", h.files.toJson), ("templates", h.templates.toJson), ("attributes", .str h.flags.text)]

def Shard.toJson (s : Shard) : Json := .obj [
  ("name", .str s.name), ("index", .ofNat s.index), ("weight", .ofOption (.ofNat ·.toNat) s.weight),
  ("internalReplication", .ofOption .bool s.internalReplication), ("settings", s.settings.toJson),
  ("files", s.files.toJson), ("templates", s.templates.toJson)]

def Replica.toJson (r : Replica) : Json := .obj [
  ("name", .str r.name), ("index", .ofNat r.index), ("settings", r.settings.toJson),
  ("files", r.files.toJson), ("templates", r.templates.toJson)]

def Cluster.toJson (c : Cluster) : Json := .obj [
  ("name", .str c.name), ("index", .ofNat c.index), ("namespace", .str c.ns),
  ("installation", .str c.installation), ("settings", c.settings.toJson),
  ("files", c.files.toJson), ("templates", c.templates.toJson),
  ("shards", .ofList Shard.toJson c.shards), ("replicas", .ofList Replica.toJson c.replicas),
  ("hosts", .ofList Host.toJson c.hosts), ("hostsCount", .ofNat c.hostsCount)]

def Installation.toJson (i : Installation) : Json := .obj [
  ("namespace", .str i.ns), ("name", .str i.name), ("uid", .ofOption .str i.uid),
  ("generation", .ofOption .ofInt64 i.generation), ("stop", .bool i.stop),
  ("settings", i.settings.toJson), ("files", i.files.toJson), ("users", i.users.toJson),
  ("profiles", i.profiles.toJson), ("quotas", i.quotas.toJson), ("zookeeper", i.zookeeper.toJson),
  ("defaults", i.defaults.toJson), ("templates", i.templates.toJson),
  ("clusters", .ofList Cluster.toJson i.clusters), ("removed", .ofNat i.removed.length),
  ("hostsCount", .ofNat i.hostsCount), ("shardsCount", .ofNat i.shardsCount)]

def Walk.toJson (walk : Walk) : Json := .obj [
  ("len", .ofNat walk.size), ("empty", .bool walk.isEmpty), ("ok", .bool walk.allOk),
  ("outcomes", .ofList (.bool ·.isOk) walk.outcomes),
  ("errors", .ofList (.str ·.message) walk.errors),
  ("into", .ofList OperatorError.toJson walk.errors)]

end ShardOperator
