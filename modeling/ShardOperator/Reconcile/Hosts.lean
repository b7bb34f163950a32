import ShardOperator.Desired.ConfigMaps
import ShardOperator.Desired.Services
import ShardOperator.Desired.Workloads
import ShardOperator.Reconcile.Object

namespace ShardOperator.Reconcile

/-- Brings about the Service, the ConfigMap and the workload of a host, each whatever became of the
others. -/
def reconcileHost (b : Blueprint) (regarding : Regarding) (report : PassReport) (host : Host) :
    Program PassReport := do
  let service ← reconcileBuilt regarding (b.hostService host)
  let configMap ← reconcileObject regarding (b.hostConfigMap host)
  let workload ← reconcileObject regarding (b.workload host)
  let report := ((report.record service).record configMap).record workload
  if service.isOk && configMap.isOk && workload.isOk then
    return if host.flags.add then { report with hostsAdded := report.hostsAdded + 1 } else report
  else return report.recordFailedHost host.id

/-- Takes down what belongs to a host that has no place any more. -/
def removeHost (regarding : Regarding) (report : PassReport) (host : Host) :
    Program PassReport := do
  let workload ← deleteObject regarding .statefulSet host.ns host.address.workloadName
  let service ← deleteObject regarding .service host.ns host.address.workloadName
  let configMap ← deleteObject regarding .configMap host.ns host.address.configMapName
  let report := ((report.recordDeletion workload).recordDeletion service).recordDeletion configMap
  if workload.isOk && service.isOk && configMap.isOk then
    Program.call (.forgetHost host.address.fqdn)
    return { report with hostsRemoved := report.hostsRemoved + 1 }
  else return report.recordFailedHost host.id

end ShardOperator.Reconcile
