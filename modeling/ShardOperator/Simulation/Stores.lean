import ShardOperator.Error
import ShardOperator.Platform.Call
import ShardOperator.Reconcile.Program
import ShardOperator.Simulation.ObjectStore

namespace ShardOperator.Simulation

/-- What a simulated server says to a request that it refuses. -/
def refusal (code : Nat) : Refusal := ⟨"Failure", "boom", "Test", code⟩

/-- What is put in the way of a call. -/
inductive Fault where
  | refused (code : Nat)
  | cancelled
  | broken
  deriving DecidableEq

def Fault.error (c : Call) : Fault → OperatorError
  | .refused code => .ofCall c.kind.text c.verb.text c.ns c.name (.refused (refusal code))
  | .cancelled => .cancelled c.verb.text
  | .broken => .internal (c.verb.text ++ " " ++ c.kind.text)
      ("injected failure for " ++ c.ns ++ "/" ++ c.name)

/-- The objects of all managed kinds. -/
structure Stores where
  services : ObjectStore .service := {}
  configMaps : ObjectStore .configMap := {}
  statefulSets : ObjectStore .statefulSet := {}
  disruptionBudgets : ObjectStore .disruptionBudget := {}
  deriving DecidableEq

namespace Stores

instance : Inhabited Stores := ⟨{}⟩

def store (s : Stores) : (kind : Kind) → ObjectStore kind
  | .service => s.services
  | .configMap => s.configMaps
  | .statefulSet => s.statefulSets
  | .disruptionBudget => s.disruptionBudgets

def setStore (s : Stores) : (kind : Kind) → ObjectStore kind → Stores
  | .service, services => { s with services }
  | .configMap, configMaps => { s with configMaps }
  | .statefulSet, statefulSets => { s with statefulSets }
  | .disruptionBudget, disruptionBudgets => { s with disruptionBudgets }

def find? (s : Stores) (kind : Kind) (ns name : String) : Option (Resource kind) :=
  (s.store kind).find? ns name

def put {kind : Kind} (s : Stores) (object : Resource kind) : Stores :=
  s.setStore kind ((s.store kind).put object)

def erase (s : Stores) (kind : Kind) (ns name : String) : Stores :=
  s.setStore kind ((s.store kind).erase ns name)

def missing (kind : Kind) (ns name : String) : OperatorError := .notFound kind.text ns name

/-- The server refuses a write that does not fit what is stored. -/
def conflict (verb : Verb) {kind : Kind} (object : Resource kind) : OperatorError :=
  Fault.error ⟨verb, kind, object.ns, object.name⟩ (.refused 409)

def create {kind : Kind} (s : Stores) (object : Resource kind) : Outcome Unit × Stores :=
  match s.find? kind object.ns object.name with
  | some _ => (.error (conflict .create object), s)
  | none => (.ok (), s.put object)

/-- An update has to carry the resource version of what it replaces. -/
def update {kind : Kind} (s : Stores) (object : Resource kind) : Outcome Unit × Stores :=
  match s.find? kind object.ns object.name with
  | none => (.error (missing kind object.ns object.name), s)
  | some stored =>
    if stored.metadata.resourceVersion = object.metadata.resourceVersion then
      (.ok (), s.put object)
    else (.error (conflict .update object), s)

def delete (s : Stores) (kind : Kind) (ns name : String) : Outcome Unit × Stores :=
  match s.find? kind ns name with
  | none => (.error (missing kind ns name), s)
  | some _ => (.ok (), s.erase kind ns name)

def get (s : Stores) (kind : Kind) (ns name : String) : Outcome (Resource kind) :=
  match s.find? kind ns name with
  | none => .error (missing kind ns name)
  | some object => .ok object

/-- Does what a request asks of the stored objects; what it asks besides is granted. -/
def perform (s : Stores) : (request : Request) → request.Reply × Stores
  | .get kind ns name => (s.get kind ns name, s)
  | .create object => s.create object
  | .update object => s.update object
  | .delete kind ns name => s.delete kind ns name
  | .list kind ns selector => (.ok ((s.store kind).select ns selector.query), s)
  | .writeStatus .. => (.ok (), s)
  | .publish .. => ((), s)
  | .dropDnsCache _ => (.ok (), s)
  | .forgetHost _ => ((), s)

end Stores

end ShardOperator.Simulation
