import ShardOperator.Topology.Host
import ShardOperator.Topology.Walk

namespace ShardOperator

/-- A row of the host matrix. -/
structure Shard where
  name : String
  index : Nat
  weight : Option UInt32 := none
  internalReplication : Option Bool := none
  settings : Settings := .empty
  files : Settings := .empty
  templates : TemplateNames := {}
  deriving DecidableEq, Inhabited

/-- A column of the host matrix. -/
structure Replica where
  name : String
  index : Nat
  settings : Settings := .empty
  files : Settings := .empty
  templates : TemplateNames := {}
  deriving DecidableEq, Inhabited

/-- Shards and replicas are named by their index until they get a name of their own. -/
def Shard.unnamed (index : Nat) : Shard := { name := toString index, index }

def Replica.unnamed (index : Nat) : Replica := { name := toString index, index }

/-- Finds a shard, a replica or a host by its name or by its position. -/
inductive Locator where
  | name (name : String)
  | index (index : Nat)
  deriving DecidableEq

/-- A named cluster. Its hosts stand in rows by shard; a cell without a host is empty, and rows may
have different lengths. -/
structure Cluster where
  name : String
  index : Nat
  ns : String
  installation : String
  settings : Settings := .empty
  files : Settings := .empty
  templates : TemplateNames := {}
  shards : List Shard := []
  replicas : List Replica := []
  rows : List (List (Option Host)) := []
  deriving DecidableEq, Inhabited

namespace Cluster

variable {m : Type → Type} [Monad m]

/-- Keeps the cluster's own files and takes the host files of the installation besides. -/
def inheritFiles (c : Cluster) (files : Settings) : Cluster :=
  { c with files := c.files.inheritHostFiles files }

def inheritTemplates (c : Cluster) (defaults : TemplateNames) : Cluster :=
  { c with templates := c.templates.merge defaults .fillEmpty }

/-- Appends `make i` for the indices up to `index` that are missing. -/
def extend {α : Type} (items : List α) (index : Nat) (make : Nat → α) : List α :=
  items ++ (List.range (index + 1 - items.length)).map (fun i => make (items.length + i))

def ensureShard (c : Cluster) (index : Nat) : Cluster :=
  { c with shards := extend c.shards index Shard.unnamed }

def ensureReplica (c : Cluster) (index : Nat) : Cluster :=
  { c with replicas := extend c.replicas index Replica.unnamed }

def shardName (c : Cluster) (shard : Nat) : String := (c.shards[shard]?.map (·.name)).getD ""

def replicaName (c : Cluster) (replica : Nat) : String :=
  (c.replicas[replica]?.map (·.name)).getD ""

/-- A host that nothing is declared about; its name joins those of its shard and replica. -/
def newHost (c : Cluster) (shard replica : Nat) : Host where
  id := ⟨c.index, shard, replica⟩
  address := {
    ns := c.ns
    installation := c.installation
    cluster := c.name
    clusterIndex := c.index
    shard := c.shardName shard
    shardIndex := shard
    replica := c.replicaName replica
    replicaIndex := replica
    host := c.shardName shard ++ "-" ++ c.replicaName replica }

def host? (c : Cluster) (shard replica : Nat) : Option Host :=
  (c.rows[shard]?.bind (·[replica]?)).join

/-- Puts `cell` at the position, after empty rows and cells where some are missing. -/
def setCell (rows : List (List (Option Host))) (shard replica : Nat) (cell : Option Host) :
    List (List (Option Host)) :=
  (extend rows shard (fun _ => [])).modify shard fun row =>
    (extend row replica (fun _ => none)).set replica cell

/-- Creates the shard, the replica and the host at a position where they are missing. -/
def ensureHost (c : Cluster) (shard replica : Nat) : Cluster :=
  let c := (c.ensureShard shard).ensureReplica replica
  match c.host? shard replica with
  | some _ => c
  | none => { c with rows := setCell c.rows shard replica (some (c.newHost shard replica)) }

def modifyHost (c : Cluster) (shard replica : Nat) (f : Host → Host) : Cluster :=
  { c with rows := c.rows.modify shard (·.modify replica (·.map f)) }

/-- Every host, shard by shard. -/
def hosts (c : Cluster) : List Host := c.rows.flatMap (·.filterMap id)

def shardHosts (c : Cluster) (shard : Nat) : List Host := (c.rows[shard]?.getD []).filterMap id

def replicaHosts (c : Cluster) (replica : Nat) : List Host := c.rows.filterMap (·[replica]?.join)

/-- The length of the longest row. -/
def width (c : Cluster) : Nat := (c.rows.map List.length).foldl max 0

/-- Every host, replica by replica. -/
def hostsByReplica (c : Cluster) : List Host := (List.range c.width).flatMap c.replicaHosts

def walkShards (c : Cluster) (visit : Nat → Shard → m (Outcome Unit)) : m Walk :=
  Walk.along c.shards.zipIdx fun entry => visit entry.2 entry.1

def walkReplicas (c : Cluster) (visit : Nat → Replica → m (Outcome Unit)) : m Walk :=
  Walk.along c.replicas.zipIdx fun entry => visit entry.2 entry.1

def walkHosts (c : Cluster) (visit : Host → m (Outcome Unit)) : m Walk := Walk.along c.hosts visit

def walkHostsByShards (c : Cluster) (visit : Nat → Nat → Host → m (Outcome Unit)) : m Walk :=
  Walk.along c.hosts fun host => visit host.id.shard host.id.replica host

def walkHostsByReplicas (c : Cluster) (visit : Nat → Nat → Host → m (Outcome Unit)) : m Walk :=
  Walk.along c.hostsByReplica fun host => visit host.id.shard host.id.replica host

/-- Visits the hosts shard by shard and puts back what each visit makes of its host. -/
def updateHosts (c : Cluster) (visit : Host → m (Outcome Unit × Host)) : m (Walk × Cluster) := do
  let rows ← c.rows.mapM fun row => row.mapM fun cell =>
    match cell with
    | none => pure none
    | some host => some <$> visit host
  let outcomes := rows.flatMap (·.filterMap (·.map (·.1)))
  return (⟨outcomes⟩, { c with rows := rows.map (·.map (·.map (·.2))) })

def mapHosts (c : Cluster) (f : Host → Host) : Cluster :=
  { c with rows := c.rows.map (·.map (·.map f)) }

def findShard? (c : Cluster) : Locator → Option Shard
  | .name name => c.shards.find? (·.name == name)
  | .index index => c.shards[index]?

def findHost? (c : Cluster) (shard host : Locator) : Option Host := do
  let shard ← c.findShard? shard
  match host with
  | .name name => (c.shardHosts shard.index).find? (·.name == name)
  | .index replica => c.host? shard.index replica

def firstHost? (c : Cluster) : Option Host := c.hosts.head?

def hostsCount (c : Cluster) : Nat := c.hosts.length

end Cluster

end ShardOperator
