import ShardOperator.Declaration.Templates

namespace ShardOperator

/-- How far an installation has come. -/
inductive Phase where
  | pending
  | inProgress
  | completed
  | aborted
  deriving DecidableEq, Inhabited

namespace Phase

def all : List Phase := [.pending, .inProgress, .completed, .aborted]

def text : Phase → String
  | .pending => "Pending"
  | .inProgress => "InProgress"
  | .completed => "Completed"
  | .aborted => "Aborted"

/-- The name, or an object with the name as its one key and `null` under it. -/
def ofJson? : Json → Option Phase
  | .str s | .obj [(s, .null)] => all.find? (·.text == s)
  | _ => none

def toJson (phase : Phase) : Json := .str phase.text

end Phase

/-- The outcome of the latest pass. -/
structure InstallationStatus where
  status : Phase := .pending
  observedGeneration : Option Int64 := none
  clusters : UInt32 := 0
  shards : UInt32 := 0
  hosts : UInt32 := 0
  hostsCompleted : UInt32 := 0
  hostsAdded : UInt32 := 0
  hostsRemoved : UInt32 := 0
  hostsWithErrors : UInt32 := 0
  errors : List String := []
  action : Option String := none
  endpoint : Option String := none
  fqdns : List String := []
  deriving DecidableEq, Inhabited

def InstallationStatus.declared : List String :=
  ["status", "observedGeneration", "clusters", "shards", "hosts", "hostsCompleted", "hostsAdded",
   "hostsRemoved", "hostsWithErrors", "errors", "action", "endpoint", "fqdns"]

def InstallationStatus.ofJson? (value : Json) : Option InstallationStatus := do
  let f ← value.record? InstallationStatus.declared
  some {
    status := ← f.defaulted "status" .pending Phase.ofJson?
    observedGeneration := ← f.optional "observedGeneration" Json.int64?
    clusters := ← f.defaulted "clusters" 0 Json.uint32?
    shards := ← f.defaulted "shards" 0 Json.uint32?
    hosts := ← f.defaulted "hosts" 0 Json.uint32?
    hostsCompleted := ← f.defaulted "hostsCompleted" 0 Json.uint32?
    hostsAdded := ← f.defaulted "hostsAdded" 0 Json.uint32?
    hostsRemoved := ← f.defaulted "hostsRemoved" 0 Json.uint32?
    hostsWithErrors := ← f.defaulted "hostsWithErrors" 0 Json.uint32?
    errors := ← f.defaulted "errors" [] (Json.list? Json.text?)
    action := ← f.optional "action" Json.text?
    endpoint := ← f.optional "endpoint" Json.text?
    fqdns := ← f.defaulted "fqdns" [] (Json.list? Json.text?) }

/-- The fields in their order, those that are left out with no value. -/
def InstallationStatus.entries (x : InstallationStatus) : List (String × Option Json) := [
    ("status", some (Phase.toJson x.status)),
    ("observedGeneration", x.observedGeneration.map .ofInt64),
    ("clusters", some (.ofNat x.clusters.toNat)),
    ("shards", some (.ofNat x.shards.toNat)),
    ("hosts", some (.ofNat x.hosts.toNat)),
    ("hostsCompleted", some (.ofNat x.hostsCompleted.toNat)),
    ("hostsAdded", some (.ofNat x.hostsAdded.toNat)),
    ("hostsRemoved", some (.ofNat x.hostsRemoved.toNat)),
    ("hostsWithErrors", some (.ofNat x.hostsWithErrors.toNat)),
    ("errors", unlessNone Json.str x.errors),
    ("action", x.action.map .str),
    ("endpoint", x.endpoint.map .str),
    ("fqdns", unlessNone Json.str x.fqdns)]

def InstallationStatus.toJson (x : InstallationStatus) : Json := .object x.entries

namespace InstallationStatus

/-- Only so many of the latest errors are kept. -/
def maxErrors : Nat := 10

def pushError (s : InstallationStatus) (error : String) : InstallationStatus :=
  let errors := s.errors ++ [error]
  { s with errors := errors.drop (errors.length - maxErrors) }

end InstallationStatus

end ShardOperator
