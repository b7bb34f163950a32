import ShardOperator.Desired.Version
import ShardOperator.Reconcile.Report
import ShardOperator.Simulation.World
import ShardOperator.View.Error

namespace ShardOperator

def ObjectOutcome.text (o : ObjectOutcome) : String :=
  o.kind.text ++ "/" ++ o.name ++ " " ++ o.plan.text

def PassReport.toJson (r : PassReport) : Json := .obj [
  ("outcomes", .ofList (.str ·.text) r.outcomes),
  ("failures", .ofList OperatorError.toFullJson r.failures),
  ("failedHosts", .ofList (.str ·.text) r.failedHosts), ("added", .ofNat r.hostsAdded),
  ("removed", .ofNat r.hostsRemoved), ("objectsRemoved", .ofNat r.objectsRemoved),
  ("success", .bool r.isSuccess), ("mutations", .ofNat r.mutations)]

def Event.typeName (e : Event) : String := if e.warning then "Warning" else "Normal"

def Event.toJson (e : Event) : Json :=
  .arr [.str e.typeName, .str e.reason, .str e.action, .ofOption .str e.note]

namespace Simulation

def HostRequest.text : HostRequest → String
  | .dropDnsCache hostname => "drop " ++ hostname
  | .forget hostname => "forget " ++ hostname

def Journal.view (j : Journal) : List (String × Json) := [
  ("statuses",
    .ofList (fun s => .obj [("chi", .str s.1.text), ("status", s.2.toJson)]) j.statuses),
  ("calls", .ofList (.str ·.text) j.calls), ("admin", .ofList (.str ·.text) j.hosts),
  ("reference", .ofOption (·.1.toJson) j.events.head?), ("events", .ofList (·.2.toJson) j.events)]

/-- The phases that installations have gone through. -/
def Journal.phases (j : Journal) : List String :=
  j.statuses.map fun s => s.1.text ++ " " ++ s.2.status.text

/-- The objects with the versions of their last write and of their content. -/
def ObjectStore.lines {kind : Kind} (s : ObjectStore kind) : List String :=
  s.objects.map fun object =>
    object.name ++ " v" ++ object.metadata.resourceVersion.getD "" ++ " " ++
      object.version?.getD "-"

def Stores.toJson (s : Stores) : Json := .obj [
  ("services", .ofTexts s.services.lines), ("configmaps", .ofTexts s.configMaps.lines),
  ("statefulsets", .ofTexts s.statefulSets.lines), ("budgets", .ofTexts s.disruptionBudgets.lines)]

end Simulation

end ShardOperator
