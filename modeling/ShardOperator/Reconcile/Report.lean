import ShardOperator.Platform.Resource
import ShardOperator.Topology.Host

namespace ShardOperator

/-- What was done to an object. -/
inductive Plan where
  | skip
  | update
  | recreate
  | create
  deriving DecidableEq

def Plan.text : Plan → String
  | .skip => "skip"
  | .update => "update"
  | .recreate => "recreate"
  | .create => "create"

structure ObjectOutcome where
  kind : Kind
  name : String
  plan : Plan
  deriving DecidableEq

/-- What a pass has come to so far. -/
structure PassReport where
  outcomes : List ObjectOutcome := []
  failures : List OperatorError := []
  /-- Hosts and orphans with a failed attempt of their own, in the order of their ids. -/
  failedHosts : List HostId := []
  hostsAdded : Nat := 0
  hostsRemoved : Nat := 0
  objectsRemoved : Nat := 0
  deriving DecidableEq

namespace PassReport

def isSuccess (r : PassReport) : Bool := r.failures.isEmpty

/-- The number of objects that were written. -/
def mutations (r : PassReport) : Nat := (r.outcomes.filter (·.plan ≠ .skip)).length

def recordOutcome (r : PassReport) (outcome : ObjectOutcome) : PassReport :=
  { r with outcomes := r.outcomes ++ [outcome] }

def recordFailure (r : PassReport) (e : OperatorError) : PassReport :=
  { r with failures := r.failures ++ [e] }

/-- An attempt to bring an object to its desired state. -/
def record (r : PassReport) : Outcome ObjectOutcome → PassReport
  | .ok outcome => r.recordOutcome outcome
  | .error e => r.recordFailure e

/-- An attempt to delete an object. -/
def recordDeletion (r : PassReport) : Outcome Unit → PassReport
  | .ok _ => r
  | .error e => r.recordFailure e

def recordFailedHost (r : PassReport) (id : HostId) : PassReport :=
  { r with failedHosts := r.failedHosts ++ [id] }

end PassReport

end ShardOperator
