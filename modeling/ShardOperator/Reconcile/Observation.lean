import ShardOperator.Desired.Labels
import ShardOperator.Desired.Names
import ShardOperator.Reconcile.Program

namespace ShardOperator.Reconcile

/-- Enough replicas of the workload are ready, and there is one at least. -/
def isReady (workload : Resource .statefulSet) : Bool :=
  let spec := StatefulSetBody.spec workload.body
  let status := StatefulSetBody.status workload.body
  let desired := (spec.bind (·.replicas)).getD 1
  let ready := (status.bind (·.readyReplicas)).getD 0
  0 < desired && desired ≤ ready

/-- What the existing workloads tell about a host. -/
def observedFlags (existing : List (Resource .statefulSet)) (host : Host) : HostFlags :=
  match existing.find? (·.anyName == host.address.workloadName) with
  | some workload => { found := true, ready := isReady workload }
  | none => { add := true }

/-- The workload belongs to a host of the installation. -/
def isClaimed (i : Installation) (workload : Resource .statefulSet) : Bool :=
  i.hosts.any (·.address.workloadName == workload.anyName)

/-- The addresses of the workloads that no host claims, as far as their labels tell one. -/
def orphanAddresses (i : Installation) (existing : List (Resource .statefulSet)) :
    List HostAddress :=
  (existing.filter (!isClaimed i ·)).filterMap fun workload =>
    HostAddress.ofLabels? (workload.metadata.labels.getD .empty) i.ns

def orphanHost (address : HostAddress) (index : Nat) : Host :=
  { id := .orphan index, address, flags := { found := true, remove := true } }

/-- The installation with its hosts flagged by the existing workloads, and with a host to remove for
each workload that no host claims. -/
def observed (i : Installation) (existing : List (Resource .statefulSet)) : Installation :=
  let flagged := i.mapHosts fun host => { host with flags := observedFlags existing host }
  { flagged with
    removed := i.removed ++ (orphanAddresses i existing).zipIdx.map fun orphan =>
      orphanHost orphan.1 (i.removed.length + orphan.2) }

/-- Looks at the workloads that carry the installation's labels. -/
def observe (i : Installation) : Program (Outcome Installation) := do
  match ← Program.call (.list .statefulSet i.ns i.selector) with
  | .ok existing => return .ok (observed i existing)
  | .error e => return .error e

end ShardOperator.Reconcile
