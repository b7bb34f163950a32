import ShardOperator.Desired.Budgets
import ShardOperator.Desired.ConfigMaps
import ShardOperator.Desired.Services
import ShardOperator.Reconcile.Object

namespace ShardOperator.Reconcile

def reconcileCommon (b : Blueprint) (regarding : Regarding) (e : Exclusion) (report : PassReport) :
    Program PassReport := do
  return report.record (← reconcileObject regarding (b.commonConfigMap e))

/-- Brings about a Service that may not be wanted at all. -/
def reconcileWanted (regarding : Regarding) (report : PassReport) :
    Outcome (Option (Resource .service)) → Program PassReport
  | .ok (some desired) => return report.record (← reconcileObject regarding desired)
  | .ok none => return report
  | .error e => return report.recordFailure e

/-- The Services of a cluster and of its shards, and its budget. -/
def reconcileCluster (b : Blueprint) (regarding : Regarding) (report : PassReport) (c : Cluster) :
    Program PassReport := do
  let report ← reconcileWanted regarding report (b.clusterService? c)
  let report ← c.shards.foldlM
    (fun report shard => reconcileWanted regarding report (b.shardService? c shard)) report
  return report.record (← reconcileObject regarding (b.budget c))

/-- What belongs to the installation as a whole, besides the common files. -/
def reconcileShared (b : Blueprint) (regarding : Regarding) (report : PassReport) :
    Program PassReport := do
  let report := report.record (← reconcileObject regarding b.usersConfigMap)
  let report := report.record (← reconcileBuilt regarding b.installationService)
  b.installation.clusters.foldlM (reconcileCluster b regarding) report

end ShardOperator.Reconcile
