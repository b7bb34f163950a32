import ShardOperator.Declaration.Installation
import ShardOperator.Topology.Cluster

namespace ShardOperator

/-- A declared installation with its layout built and every inherited value resolved. -/
structure Installation where
  ns : String
  name : String
  uid : Option String := none
  generation : Option Int64 := none
  stop : Bool := false
  settings : Settings := .empty
  files : Settings := .empty
  users : Settings := .empty
  profiles : Settings := .empty
  quotas : Settings := .empty
  zookeeper : ZookeeperConfig := {}
  defaults : TemplateNames := {}
  templates : Templates := {}
  clusters : List Cluster := []
  /-- Workloads that exist on the platform and have no place in the layout. -/
  removed : List Host := []
  deriving DecidableEq, Inhabited

namespace Installation

variable {m : Type → Type} [Monad m]

/-- Every host, cluster by cluster and shard by shard. -/
def hosts (i : Installation) : List Host := i.clusters.flatMap Cluster.hosts

def walkClusters (i : Installation) (visit : Cluster → m (Outcome Unit)) : m Walk :=
  Walk.along i.clusters visit

def walkHosts (i : Installation) (visit : Host → m (Outcome Unit)) : m Walk :=
  Walk.along i.hosts visit

def updateHosts (i : Installation) (visit : Host → m (Outcome Unit × Host)) :
    m (Walk × Installation) := do
  let parts ← i.clusters.mapM (·.updateHosts visit)
  return (⟨parts.flatMap (·.1.outcomes)⟩, { i with clusters := parts.map (·.2) })

def mapHosts (i : Installation) (f : Host → Host) : Installation :=
  { i with clusters := i.clusters.map (·.mapHosts f) }

def findCluster? (i : Installation) : Locator → Option Cluster
  | .name name => i.clusters.find? (·.name == name)
  | .index index => i.clusters[index]?

def host? (i : Installation) (id : HostId) : Option Host :=
  i.clusters[id.cluster]?.bind (·.host? id.shard id.replica)

def setFlags (i : Installation) (id : HostId) (flags : HostFlags) : Installation :=
  let flagged (c : Cluster) := c.modifyHost id.shard id.replica ({ · with flags })
  { i with clusters := i.clusters.modify id.cluster flagged }

def clusterOf? (i : Installation) (host : Host) : Option Cluster := i.clusters[host.id.cluster]?

def firstHost? (i : Installation) : Option Host := i.hosts.head?

def hostsCount (i : Installation) : Nat := i.hosts.length

def shardsCount (i : Installation) : Nat := (i.clusters.flatMap (·.shards)).length

end Installation

end ShardOperator
