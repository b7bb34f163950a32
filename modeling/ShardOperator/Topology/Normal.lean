import ShardOperator.Config.HostDefaults
import ShardOperator.Topology.Installation

namespace ShardOperator

/-- The greatest of the given count, the number of listed items and one. -/
def declaredCount (explicit : Option UInt32) (listed : Nat) : Nat :=
  max (max ((explicit.map (·.toNat)).getD 0) listed) 1

/-- A declared name counts unless it is empty. -/
def declaredName (name : Option String) (otherwise : String) : String :=
  match name with
  | none | some "" => otherwise
  | some name => name

/-- What a level hands down to those below it. -/
structure Parent where
  settings : Settings
  files : Settings
  templates : TemplateNames

def Cluster.parent (c : Cluster) : Parent := ⟨c.settings, c.files, c.templates⟩

def Shard.parent (shard : Shard) : Parent := ⟨shard.settings, shard.files, shard.templates⟩

def Replica.parent (replica : Replica) : Parent :=
  ⟨replica.settings, replica.files, replica.templates⟩

/-- A port that is not declared, or declared as zero, is the default one. -/
def resolvePort (declared : Option Int32) (default : Int32) : Int32 :=
  let port := declared.getD 0
  if port = 0 then default else port

/-- The host with what is declared about it and what it inherits from its parent. -/
def Host.resolve (host : Host) (spec : Option HostSpec) (parent : Parent)
    (defaults : HostDefaults) : Host :=
  let spec : HostSpec := spec.getD {}
  { host with
    address := { host.address with host := declaredName spec.name host.address.host }
    tcpPort := resolvePort spec.tcpPort defaults.tcpPort
    httpPort := resolvePort spec.httpPort defaults.httpPort
    interserverPort := resolvePort spec.interserverPort defaults.interserverPort
    settings := spec.settings.merge parent.settings .fillEmpty
    files := spec.files.inheritHostFiles parent.files
    templates := (spec.templates.getD {}).merge parent.templates .fillEmpty }

/-- The shard with what is declared about it and what it inherits from its cluster. -/
def Shard.resolve (shard : Shard) (spec : Option ShardSpec) (parent : Parent) : Shard :=
  let spec : ShardSpec := spec.getD {}
  { shard with
    name := declaredName spec.name shard.name
    weight := spec.weight
    internalReplication := spec.internalReplication
    settings := spec.settings.merge parent.settings .fillEmpty
    files := spec.files.inheritHostFiles parent.files
    templates := (spec.templates.getD {}).merge parent.templates .fillEmpty }

def Replica.resolve (replica : Replica) (spec : Option ReplicaSpec) (parent : Parent) : Replica :=
  let spec : ReplicaSpec := spec.getD {}
  { replica with
    name := declaredName spec.name replica.name
    settings := spec.settings.merge parent.settings .fillEmpty
    files := spec.files.inheritHostFiles parent.files
    templates := (spec.templates.getD {}).merge parent.templates .fillEmpty }

namespace Cluster

/-- The number of replicas of a shard. -/
def rowLength (layout : LayoutSpec) (spec : Option ShardSpec) : Nat :=
  max ((spec.map fun s => declaredCount s.replicasCount s.replicas.length).getD 1)
    ((layout.replicasCount.map (·.toNat)).getD 0)

/-- The number of shards that a replica reaches into. -/
def columnLength (layout : LayoutSpec) (spec : Option ReplicaSpec) : Nat :=
  max ((spec.map fun r => declaredCount r.shardsCount r.shards.length).getD 1)
    ((layout.shardsCount.map (·.toNat)).getD 0)

/-- Creates the shard if it is missing, and resolves it. -/
def resolveShard (c : Cluster) (s : Nat) (spec : Option ShardSpec) : Cluster :=
  let c := c.ensureShard s
  { c with shards := c.shards.modify s (·.resolve spec c.parent) }

def resolveReplica (c : Cluster) (r : Nat) (spec : Option ReplicaSpec) : Cluster :=
  let c := c.ensureReplica r
  { c with replicas := c.replicas.modify r (·.resolve spec c.parent) }

def resolveHost (c : Cluster) (s r : Nat) (spec : Option HostSpec) (parent : Parent)
    (defaults : HostDefaults) : Cluster :=
  (c.ensureHost s r).modifyHost s r (·.resolve spec parent defaults)

/-- Lays one shard out: resolves it, and then each of its hosts after its replica is there. -/
def layShard (layout : LayoutSpec) (defaults : HostDefaults) (c : Cluster) (s : Nat) : Cluster :=
  let spec := layout.shards[s]?
  let c := c.resolveShard s spec
  let parent := (c.shards[s]?.getD (.unnamed s)).parent
  (List.range (rowLength layout spec)).foldl (fun c r =>
    (c.ensureReplica r).resolveHost s r (spec.bind (·.replicas[r]?)) parent defaults) c

def layReplica (layout : LayoutSpec) (defaults : HostDefaults) (c : Cluster) (r : Nat) : Cluster :=
  let spec := layout.replicas[r]?
  let c := c.resolveReplica r spec
  let parent := (c.replicas[r]?.getD (.unnamed r)).parent
  (List.range (columnLength layout spec)).foldl (fun c s =>
    (c.ensureShard s).resolveHost s r (spec.bind (·.shards[s]?)) parent defaults) c

/-- Lays the hosts out by shards; replicas have no names of their own. -/
def layByShards (c : Cluster) (layout : LayoutSpec) (defaults : HostDefaults) : Cluster :=
  (List.range (declaredCount layout.shardsCount layout.shards.length)).foldl
    (layShard layout defaults) c

/-- Lays the hosts out by replicas; shards have no names of their own. -/
def layByReplicas (c : Cluster) (layout : LayoutSpec) (defaults : HostDefaults) : Cluster :=
  (List.range (declaredCount layout.replicasCount layout.replicas.length)).foldl
    (layReplica layout defaults) c

/-- The first name that an earlier item has too. -/
def repeated? : List String → Option String
  | names => go [] names
where
  go (seen : List String) : List String → Option String
    | [] => none
    | name :: rest => if name ∈ seen then some name else go (name :: seen) rest

/-- Object names are built from the names of shards and replicas, so each has to be used once in its
cluster, and host names as well. -/
def checkNames (c : Cluster) : Outcome Unit := do
  let refuse (what name : String) : Outcome Unit := .error <| .invalid c.installation <|
    "duplicate " ++ what ++ " name '" ++ name ++ "' in cluster '" ++ c.name ++ "'"
  if let some name := repeated? (c.shards.map (·.name)) then refuse "shard" name
  if let some name := repeated? (c.replicas.map (·.name)) then refuse "replica" name
  if let some name := repeated? (c.hosts.map (·.name)) then refuse "host" name

/-- Listed shards, or the absence of listed replicas, lay the cluster out by shards. -/
def ofSpec (installation : Installation) (spec : ClusterSpec) (index : Nat)
    (defaults : HostDefaults) : Cluster :=
  let c : Cluster := {
    name := spec.name
    index
    ns := installation.ns
    installation := installation.name
    settings := spec.settings
    files := spec.files
    templates := spec.templates.getD {} }
  let c := (c.inheritTemplates installation.defaults).inheritFiles installation.files
  if spec.layout.shards.isEmpty && !spec.layout.replicas.isEmpty then
    c.layByReplicas spec.layout defaults
  else c.layByShards spec.layout defaults

end Cluster

namespace InstallationResource

/-- The installation without its clusters. -/
def frame (chi : InstallationResource) (ns : String) : Installation where
  ns
  name := chi.anyName
  uid := chi.metadata.uid
  generation := chi.metadata.generation
  stop := chi.spec.stop
  settings := chi.spec.configuration.settings
  files := chi.spec.configuration.files
  users := chi.spec.configuration.users
  profiles := chi.spec.configuration.profiles
  quotas := chi.spec.configuration.quotas
  zookeeper := chi.spec.configuration.zookeeper.getD {}
  defaults := (chi.spec.defaults.bind (·.templates)).getD {}
  templates := chi.spec.templates.getD {}

/-- Adds the clusters one after the other, each after a check of its name among those before it. -/
def addClusters (defaults : HostDefaults) (i : Installation) :
    List ClusterSpec → Outcome Installation
  | [] => .ok i
  | spec :: rest => do
    let index := i.clusters.length
    if spec.name = "" then
      throw (.invalid i.name ("cluster " ++ toString index ++ " has no name"))
    if i.clusters.any (·.name == spec.name) then
      throw (.invalid i.name ("duplicate cluster name '" ++ spec.name ++ "'"))
    let cluster := Cluster.ofSpec i spec index defaults
    cluster.checkNames
    addClusters defaults { i with clusters := i.clusters ++ [cluster] } rest

/-- Builds the layout and resolves what every host inherits. -/
def normalize (chi : InstallationResource) (defaults : HostDefaults) : Outcome Installation :=
  match chi.metadata.ns with
  | none => .error (.invalid chi.anyName "installation has no namespace")
  | some ns => addClusters defaults (chi.frame ns) chi.spec.configuration.clusters

end InstallationResource

end ShardOperator
