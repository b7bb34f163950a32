import ShardOperator.Reconcile.Hosts
import ShardOperator.Reconcile.Observation
import ShardOperator.Reconcile.Shared
import ShardOperator.Reconcile.Sweep
import ShardOperator.Topology.Normal

namespace ShardOperator.Reconcile

/-- Statuses are written as well as possible; a pass does not depend on them. -/
def writeStatus (ns name : String) (status : InstallationStatus) : Program Unit := do
  let _ ← Program.call (.writeStatus ns name status)

/-- The status of a pass that cannot go on. -/
def abortedStatus (chi : InstallationResource) (action : String) (e : OperatorError) :
    InstallationStatus :=
  let status : InstallationStatus :=
    { status := .aborted, action := some action, observedGeneration := chi.metadata.generation }
  status.pushError e.message

def startedStatus : InstallationStatus :=
  { status := .inProgress, action := some "reconcile started" }

def countOf (n : Nat) : UInt32 := UInt32.ofNat n

def actionText (phase : Phase) : String := Text.lowerAscii ("reconcile " ++ phase.text)

/-- The status that a pass ends with. -/
def finalStatus (chi : InstallationResource) (i : Installation) (report : PassReport) :
    InstallationStatus :=
  let phase : Phase := if report.isSuccess then .completed else .aborted
  let failed := (report.failedHosts.filter fun id => (i.host? id).isSome).length
  let status : InstallationStatus := {
    status := phase
    action := some (actionText phase)
    observedGeneration := chi.metadata.generation
    clusters := countOf i.clusters.length
    shards := countOf i.shardsCount
    hosts := countOf i.hostsCount
    hostsCompleted := countOf (i.hostsCount - failed)
    hostsAdded := countOf report.hostsAdded
    hostsRemoved := countOf report.hostsRemoved
    hostsWithErrors := countOf report.failedHosts.length
    endpoint := some i.fqdn
    fqdns := i.hosts.map (·.address.fqdn) }
  report.failures.foldl (fun status e => status.pushError e.message) status

/-- Hosts that are about to come or go are no peers yet. -/
def peersBefore : Exclusion := Exclusion.none.excludeFlags { add := true, remove := true }

/-- Hosts with failures are no peers. -/
def peersAfter (report : PassReport) : Exclusion := Exclusion.none.excludeIds report.failedHosts

/-- A ready host without failures learns about the new names at once. -/
def dropDnsCaches (i : Installation) (report : PassReport) : Program Unit :=
  let stale := i.hosts.filter fun host => host.flags.ready && !report.failedHosts.contains host.id
  stale.forM fun host => do
    let _ ← Program.call (.dropDnsCache host.address.fqdn)

/-- Brings about everything that an observed installation needs. -/
def converge (b : Blueprint) (regarding : Regarding) : Program PassReport := do
  let i := b.installation
  let report ← reconcileCommon b regarding peersBefore {}
  let report ← i.hosts.foldlM (reconcileHost b regarding) report
  let report ← i.removed.foldlM (removeHost regarding) report
  let report ← reconcileCommon b regarding (peersAfter report) report
  let report ← reconcileShared b regarding report
  let report ← sweep b regarding report
  if 0 < report.hostsAdded || 0 < report.hostsRemoved then dropDnsCaches i report
  return report

def outcomeEvent (report : PassReport) : Event :=
  if report.isSuccess then .completed
  else .failed (toString report.failures.length ++ " object(s) failed")

/-- A resource that cannot be normalized is told about where it has a place to be told. -/
def rejectPass (chi : InstallationResource) (e : OperatorError) : Program Unit := do
  if let some ns := chi.metadata.ns then
    writeStatus ns chi.anyName (abortedStatus chi "normalization failed" e)
  publish chi.reference (.failed e.message)

/-- One pass over a declared installation. It has no report only where the resource cannot be
normalized or the workloads cannot be listed. -/
def pass (flavour : Flavour) (defaults : HostDefaults) (chi : InstallationResource) :
    Program (Outcome PassReport) := do
  match chi.normalize defaults with
  | .error e =>
    rejectPass chi e
    return .error e
  | .ok i =>
    writeStatus i.ns i.name startedStatus
    publish chi.reference .started
    match ← observe i with
    | .error e =>
      writeStatus i.ns i.name (abortedStatus chi "observe failed" e)
      return .error e
    | .ok i =>
      let report ← converge ⟨i, defaults, flavour⟩ chi.reference
      writeStatus i.ns i.name (finalStatus chi i report)
      publish chi.reference (outcomeEvent report)
      return .ok report

end ShardOperator.Reconcile
