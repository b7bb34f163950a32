import ShardOperator.Data.Table
import ShardOperator.Simulation.Stores
import ShardOperator.Work.Cache

namespace ShardOperator.Simulation

/-- What becomes of a status that is written. -/
inductive StatusMode where
  | accepted
  | refused
  /-- The writer is brought down. -/
  | crashing
  deriving DecidableEq

/-- What is asked of the servers of the installation. -/
inductive HostRequest where
  | dropDnsCache (hostname : String)
  | forget (hostname : String)
  deriving DecidableEq

/-- Everything that has been asked, in order. -/
structure Journal where
  calls : List Call := []
  statuses : List (InstallationKey × InstallationStatus) := []
  events : List (ObjectReference × Event) := []
  hosts : List HostRequest := []

instance : Inhabited Journal := ⟨{}⟩

def Journal.note (j : Journal) (request : Request) : Journal :=
  match request with
  | .writeStatus ns name status => { j with statuses := j.statuses ++ [(⟨ns, name⟩, status)] }
  | .publish regarding event => { j with events := j.events ++ [(regarding, event)] }
  | .dropDnsCache hostname => { j with hosts := j.hosts ++ [.dropDnsCache hostname] }
  | .forgetHost hostname => { j with hosts := j.hosts ++ [.forget hostname] }
  | request =>
    match request.call? with
    | some call => { j with calls := j.calls ++ [call] }
    | none => j

/-- The name that stands for every name of a kind. -/
def anyName : String := "*"

/-- A platform with faults put into it, that answers the requests of passes. -/
structure World where
  stores : Stores := {}
  faults : Table (Verb × Kind × String) Fault := {}
  /-- How long the calls on an object take, in milliseconds; other calls take no time. -/
  delays : Table String Nat := {}
  statusMode : StatusMode := .accepted
  adminFails : Bool := false
  cancelled : Bool := false
  /-- The number of calls from now on of which the last cancels the pass. -/
  cancelAfter : Option Nat := none
  journal : Journal := {}

namespace World

instance : Inhabited World := ⟨{}⟩

/-- A fault for the name itself comes before one for every name. -/
def fault? (w : World) (c : Call) : Option Fault :=
  (w.faults.find? (c.verb, c.kind, c.name)).or (w.faults.find? (c.verb, c.kind, anyName))

def note (w : World) (request : Request) : World := { w with journal := w.journal.note request }

/-- How long the reply to a request takes. -/
def delay (w : World) (request : Request) : Nat :=
  (request.call?.bind fun c => w.delays.find? c.name).getD 0

/-- Counts a call down to the one that cancels the pass. -/
def countCall (w : World) : World :=
  match w.cancelAfter with
  | some 1 => { w with cancelled := true, cancelAfter := none }
  | some (n + 2) => { w with cancelAfter := some (n + 1) }
  | some 0 | none => w

def perform (w : World) (request : Request) : request.Reply × World :=
  let (reply, stores) := w.stores.perform request
  (reply, { w with stores })

/-- A call fails when the pass is cancelled or a fault is in its way, and else does its work. -/
def call (w : World) (c : Call) (request : Request) : request.Reply × World :=
  if w.cancelled then (request.refuse (.cancelled c.verb.text), w)
  else
    let counted := w.countCall
    match w.fault? c with
    | some fault => (request.refuse (fault.error c), counted)
    | none => counted.perform request

/-- The error of a status or of a host request that is not granted. -/
def denied : OperatorError := .internal "simulation" "denied"

/-- The reply to a request; there is none when the request brings its pass down. -/
def answer (w : World) (request : Request) : Option request.Reply × World :=
  match request, request.call? with
  | request, some c =>
    let (reply, w) := w.call c request
    (some reply, w)
  | .writeStatus .., none =>
    match w.statusMode with
    | .accepted => (some (.ok ()), w)
    | .refused => (some (.error denied), w)
    | .crashing => (none, w)
  | .dropDnsCache _, none => (some (if w.adminFails then .error denied else .ok ()), w)
  | request, none =>
    let (reply, w) := w.perform request
    (some reply, w)

end World

end ShardOperator.Simulation
