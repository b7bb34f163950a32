import ShardOperator.Desired.Version
import ShardOperator.Reconcile.Migration
import ShardOperator.Reconcile.Program
import ShardOperator.Reconcile.Report

namespace ShardOperator.Reconcile

/-- The installation that events are about. -/
abbrev Regarding := ObjectReference

def publish (regarding : Regarding) (event : Event) : Program Unit :=
  .call (.publish regarding event)

def isCurrent {kind : Kind} (current desired : Resource kind) : Bool :=
  desired.version?.isSome && current.version? = desired.version?

/-- Creates an object and tells about it. -/
def createObject {kind : Kind} (regarding : Regarding) (desired : Resource kind) (plan : Plan) :
    Program (Outcome ObjectOutcome) := do
  match ← Program.call (.create desired) with
  | .ok _ =>
    publish regarding (.callCompleted .create kind desired.ns desired.name)
    return .ok ⟨kind, desired.name, plan⟩
  | .error e =>
    publish regarding (.callFailed .create e)
    return .error e

/-- Makes room for an object that cannot be updated, and creates it. What comes of the deletion is
seen by the creation. -/
def recreateObject {kind : Kind} (regarding : Regarding) (desired : Resource kind)
    (obstacle : OperatorError) : Program (Outcome ObjectOutcome) := do
  publish regarding (.callFailed .update obstacle)
  let _ ← Program.call (.delete kind desired.ns desired.name)
  createObject regarding desired .recreate

/-- Replaces an object in place, or by a new one where that is not possible. -/
def replaceObject {kind : Kind} (regarding : Regarding) (current desired : Resource kind) :
    Program (Outcome ObjectOutcome) := do
  match current.migrate desired with
  | .error e => recreateObject regarding desired e
  | .ok migrated =>
    match ← Program.call (.update migrated) with
    | .ok _ =>
      publish regarding (.callCompleted .update kind desired.ns desired.name)
      return .ok ⟨kind, desired.name, .update⟩
    | .error e =>
      if e.isCancelled then return .error e else recreateObject regarding desired e

/-- Brings an object to its desired state: it is left alone when it has the desired version,
replaced when it has another, and created when it is missing. -/
def reconcileObject {kind : Kind} (regarding : Regarding) (desired : Resource kind) :
    Program (Outcome ObjectOutcome) := do
  match ← Program.call (.get kind desired.ns desired.name) with
  | .ok current =>
    if isCurrent current desired then return .ok ⟨kind, desired.name, .skip⟩
    else replaceObject regarding current desired
  | .error e =>
    if e.isNotFound then createObject regarding desired .create
    else if e.isCancelled then return .error e
    else
      publish regarding (.callFailed .get e)
      return .error e

/-- Brings about what could be built; an object that could not is a failure of its own. -/
def reconcileBuilt {kind : Kind} (regarding : Regarding) :
    Outcome (Resource kind) → Program (Outcome ObjectOutcome)
  | .ok desired => reconcileObject regarding desired
  | .error e => return .error e

/-- Deletes an object; that it is gone already is fine. -/
def deleteObject (regarding : Regarding) (kind : Kind) (ns name : String) :
    Program (Outcome Unit) := do
  match ← Program.call (.delete kind ns name) with
  | .ok _ =>
    publish regarding (.callCompleted .delete kind ns name)
    return .ok ()
  | .error e =>
    if e.isNotFound then return .ok ()
    else
      publish regarding (.callFailed .delete e)
      return .error e

end ShardOperator.Reconcile
