import ShardOperator.Declaration.Installation
import ShardOperator.Error
import ShardOperator.Platform.Call

namespace ShardOperator

/-- News about an installation. -/
structure Event where
  warning : Bool
  reason : String
  action : String
  note : Option String
  deriving DecidableEq

/-- How notes name an object. -/
def objectNote (kind ns name : String) : String := kind ++ " " ++ ns ++ "/" ++ name

namespace Event

def started : Event := ⟨false, "ReconcileStarted", "Reconcile", none⟩

def completed : Event := ⟨false, "ReconcileCompleted", "Reconcile", none⟩

def failed (note : String) : Event := ⟨true, "ReconcileFailed", "Reconcile", some note⟩

/-- The word for the action, which is the stem of the reason too. -/
def word : Verb → String
  | .get => "Get"
  | .create => "Create"
  | .update => "Update"
  | .delete => "Delete"
  | .list => "List"

def callCompleted (verb : Verb) (kind : Kind) (ns name : String) : Event :=
  ⟨false, word verb ++ "Completed", word verb, some (objectNote kind.text ns name)⟩

def callFailed (verb : Verb) (e : OperatorError) : Event :=
  ⟨true, word verb ++ "Failed", word verb, some e.message⟩

end Event

/-- What a pass asks of the world around it. -/
inductive Request where
  | get (kind : Kind) (ns name : String)
  | create {kind : Kind} (object : Resource kind)
  | update {kind : Kind} (object : Resource kind)
  | delete (kind : Kind) (ns name : String)
  | list (kind : Kind) (ns : String) (selector : Labels)
  | writeStatus (ns name : String) (status : InstallationStatus)
  | publish (regarding : ObjectReference) (event : Event)
  | dropDnsCache (hostname : String)
  | forgetHost (hostname : String)

/-- What comes back for a request. -/
abbrev Request.Reply : Request → Type
  | .get kind _ _ => Outcome (Resource kind)
  | .create _ | .update _ | .delete .. | .writeStatus .. | .dropDnsCache _ => Outcome Unit
  | .list kind _ _ => Outcome (List (Resource kind))
  | .publish .. | .forgetHost _ => Unit

namespace Request

/-- The call on the stored objects that a request makes, if it makes one. -/
def call? : Request → Option Call
  | .get kind ns name => some ⟨.get, kind, ns, name⟩
  | @create kind object => some ⟨.create, kind, object.ns, object.name⟩
  | @update kind object => some ⟨.update, kind, object.ns, object.name⟩
  | .delete kind ns name => some ⟨.delete, kind, ns, name⟩
  | .list kind ns selector => some ⟨.list, kind, ns, selector.query⟩
  | .writeStatus .. | .publish .. | .dropDnsCache _ | .forgetHost _ => none

/-- The reply that a request fails with, where it can fail. -/
def refuse (e : OperatorError) : (request : Request) → request.Reply
  | .get .. | .create _ | .update _ | .delete .. | .list .. | .writeStatus .. | .dropDnsCache _ =>
    .error e
  | .publish .. | .forgetHost _ => ()

end Request

/-- A computation that makes requests one after the other and depends on the world only through
their replies. -/
inductive Program (α : Type) where
  | done (value : α)
  | ask (request : Request) (next : request.Reply → Program α)

namespace Program

variable {α β γ : Type}

def bind (program : Program α) (f : α → Program β) : Program β :=
  match program with
  | .done value => f value
  | .ask request next => .ask request fun reply => (next reply).bind f

instance : Monad Program where
  pure := .done
  bind := bind

/-- The program of one request. -/
def call (request : Request) : Program request.Reply := .ask request .done

theorem bind_done (program : Program α) : program.bind .done = program := by
  induction program with
  | done value => rfl
  | ask request next ih => simp only [bind, ih]

theorem bind_assoc (program : Program α) (f : α → Program β) (g : β → Program γ) :
    (program.bind f).bind g = program.bind fun value => (f value).bind g := by
  induction program with
  | done value => rfl
  | ask request next ih => simp only [bind, ih]

instance : LawfulMonad Program :=
  LawfulMonad.mk' Program bind_done (fun _ _ => rfl) bind_assoc

end Program

end ShardOperator
