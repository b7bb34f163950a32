import ShardOperator.Declaration.TemplateNames

namespace ShardOperator

/-- The position of a host in its installation. -/
structure HostId where
  cluster : Nat
  shard : Nat
  replica : Nat
  deriving DecidableEq, Inhabited

namespace HostId

def text (id : HostId) : String :=
  toString id.cluster ++ "/" ++ toString id.shard ++ "/" ++ toString id.replica

/-- Clusters first, then shards, then replicas. -/
def isBefore (a b : HostId) : Bool :=
  a.cluster < b.cluster ||
    (a.cluster = b.cluster && (a.shard < b.shard || (a.shard = b.shard && a.replica < b.replica)))

/-- The cluster index that no cluster has. -/
def noCluster : Nat := 18446744073709551615

/-- The id of a workload that has no place in the declared layout. -/
def orphan (index : Nat) : HostId := ⟨noCluster, 0, index⟩

end HostId

/-- The identity of a host, from which names and labels derive. -/
structure HostAddress where
  ns : String := ""
  installation : String := ""
  cluster : String := ""
  clusterIndex : Nat := 0
  shard : String := ""
  shardIndex : Nat := 0
  replica : String := ""
  replicaIndex : Nat := 0
  host : String := ""
  deriving DecidableEq, Inhabited

/-- What a pass has found out about a host. -/
structure HostFlags where
  add : Bool := false
  remove : Bool := false
  modify : Bool := false
  found : Bool := false
  ready : Bool := false
  deriving DecidableEq, Inhabited

namespace HostFlags

def named (flags : HostFlags) : List (String × Bool) :=
  [("add", flags.add), ("remove", flags.remove), ("modify", flags.modify),
    ("found", flags.found), ("ready", flags.ready)]

def any (flags : HostFlags) : Bool := flags.named.any (·.2)

/-- Some flag is set on both sides. -/
def intersects (a b : HostFlags) : Bool :=
  (a.add && b.add) || (a.remove && b.remove) || (a.modify && b.modify) ||
    (a.found && b.found) || (a.ready && b.ready)

def text (flags : HostFlags) : String :=
  "[" ++ Text.join "," ((flags.named.filter (·.2)).map (·.1)) ++ "]"

end HostFlags

/-- One server of a cluster. A port of zero is not assigned yet. -/
structure Host where
  id : HostId
  address : HostAddress
  tcpPort : Int32 := 0
  httpPort : Int32 := 0
  interserverPort : Int32 := 0
  settings : Settings := .empty
  files : Settings := .empty
  templates : TemplateNames := {}
  flags : HostFlags := {}
  deriving DecidableEq, Inhabited

namespace Host

def name (host : Host) : String := host.address.host

def ns (host : Host) : String := host.address.ns

end Host

end ShardOperator
