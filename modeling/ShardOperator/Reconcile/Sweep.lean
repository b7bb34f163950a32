import ShardOperator.Desired.Services
import ShardOperator.Reconcile.Object

namespace ShardOperator

/-- A Service that is wanted, whether or not it can be built. -/
def isWanted : Outcome (Option (Resource .service)) → Bool
  | .ok none => false
  | _ => true

namespace Blueprint

def clusterServiceNames (b : Blueprint) (c : Cluster) : List String :=
  let own := if isWanted (b.clusterService? c) then [c.serviceName] else []
  own ++ (c.shards.filter fun shard => isWanted (b.shardService? c shard)).map c.shardServiceName

/-- The names that objects of a kind should have, where what cannot be built keeps its name. -/
def desiredNames (b : Blueprint) : Kind → List String
  | .service =>
    let i := b.installation
    i.serviceName ::
      (i.clusters.flatMap b.clusterServiceNames ++ i.hosts.map (·.address.workloadName))
  | .configMap =>
    let i := b.installation
    i.commonConfigMapName :: i.usersConfigMapName :: i.hosts.map (·.address.configMapName)
  | .statefulSet => b.installation.hosts.map (·.address.workloadName)
  | .disruptionBudget => b.installation.clusters.map Cluster.budgetName

/-- The object has the installation for an owner; without a uid there is nothing to tell by. -/
def isOwner {kind : Kind} (b : Blueprint) (object : Resource kind) : Bool :=
  match b.installation.uid with
  | none => true
  | some uid => (object.metadata.ownerReferences.getD []).any (·.uid == uid)

/-- The objects of the installation that are not desired any more. -/
def staleObjects {kind : Kind} (b : Blueprint) (existing : List (Resource kind)) :
    List (Resource kind) :=
  let desired := b.desiredNames kind
  existing.filter fun object => !desired.contains object.anyName && b.isOwner object

end Blueprint

namespace Reconcile

def sweepObject (b : Blueprint) (regarding : Regarding) {kind : Kind} (report : PassReport)
    (object : Resource kind) : Program PassReport := do
  match ← deleteObject regarding kind b.installation.ns object.anyName with
  | .ok _ => return { report with objectsRemoved := report.objectsRemoved + 1 }
  | .error e => return report.recordFailure e

/-- Deletes the stale objects of a kind. -/
def sweepKind (b : Blueprint) (regarding : Regarding) (report : PassReport) (kind : Kind) :
    Program PassReport := do
  let i := b.installation
  match ← Program.call (.list kind i.ns i.selector) with
  | .error e => return report.recordFailure e
  | .ok existing => (b.staleObjects existing).foldlM (sweepObject b regarding) report

/-- Workloads are not swept: a stale one belongs to a host that is removed as a whole. -/
def sweptKinds : List Kind := [.service, .configMap, .disruptionBudget]

def sweep (b : Blueprint) (regarding : Regarding) (report : PassReport) : Program PassReport :=
  sweptKinds.foldlM (sweepKind b regarding) report

end Reconcile

end ShardOperator
