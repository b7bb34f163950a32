import ShardOperator.Reconcile.Program
import ShardOperator.Simulation.Stores

namespace ShardOperator

open Simulation

/-- The ways in which a request may be served: the stores before it, its reply, and the stores
after it. -/
abbrev Service := Stores → (request : Request) → request.Reply → Stores → Prop

namespace Program

variable {α β γ : Type} {service : Service}

/-- The requests that a program has made on its way, and what is left of it. A program that is cut
off ends anywhere on its path. -/
inductive Path (service : Service) :
    Program α → Stores → List Request → Program α → Stores → Prop where
  | stop (program : Program α) (s : Stores) : Path service program s [] program s
  | step {request : Request} {next : request.Reply → Program α} {s mid last : Stores}
      {reply : request.Reply} {trace : List Request} {rest : Program α}
      (served : service s request reply mid)
      (onward : Path service (next reply) mid trace rest last) :
      Path service (.ask request next) s (request :: trace) rest last

theorem Path.mono {other : Service} {program rest : Program α} {s last : Stores}
    {trace : List Request} (path : Path service program s trace rest last)
    (himp : ∀ {s request reply after}, service s request reply after →
      other s request reply after) : Path other program s trace rest last := by
  induction path with
  | stop program s => exact .stop program s
  | step served onward ih => exact .step (himp served) ih

/-- The program comes to its end with a value. -/
def Runs (service : Service) (program : Program α) (s : Stores) (value : α) (last : Stores) :
    Prop :=
  ∃ trace, Path service program s trace (.done value) last

theorem runs_done {value result : α} {s last : Stores} :
    Runs service (.done value) s result last ↔ result = value ∧ last = s := by
  constructor
  · rintro ⟨trace, h⟩
    cases h
    exact ⟨rfl, rfl⟩
  · rintro ⟨rfl, rfl⟩
    exact ⟨[], .stop _ _⟩

theorem runs_pure {value result : α} {s last : Stores} :
    Runs service (pure value) s result last ↔ result = value ∧ last = s :=
  runs_done

theorem runs_ask {request : Request} {next : request.Reply → Program α} {s last : Stores}
    {value : α} :
    Runs service (.ask request next) s value last ↔
      ∃ reply mid, service s request reply mid ∧ Runs service (next reply) mid value last := by
  constructor
  · rintro ⟨trace, h⟩
    cases h with
    | step served onward => exact ⟨_, _, served, _, onward⟩
  · rintro ⟨reply, mid, served, trace, onward⟩
    exact ⟨request :: trace, .step served onward⟩

theorem runs_bind {program : Program α} {f : α → Program β} {s last : Stores} {value : β} :
    Runs service (program >>= f) s value last ↔
      ∃ a mid, Runs service program s a mid ∧ Runs service (f a) mid value last := by
  induction program generalizing s with
  | done a =>
    change Runs service (f a) s value last ↔ _
    constructor
    · intro h
      exact ⟨a, s, runs_done.2 ⟨rfl, rfl⟩, h⟩
    · rintro ⟨b, mid, hb, h⟩
      obtain ⟨rfl, rfl⟩ := runs_done.1 hb
      exact h
  | ask request next ih =>
    change Runs service (.ask request fun reply => next reply >>= f) s value last ↔ _
    rw [runs_ask]
    constructor
    · rintro ⟨reply, mid, served, h⟩
      obtain ⟨a, mid', ha, h⟩ := (ih reply).1 h
      exact ⟨a, mid', runs_ask.2 ⟨reply, mid, served, ha⟩, h⟩
    · rintro ⟨a, mid', ha, h⟩
      obtain ⟨reply, mid, served, ha⟩ := runs_ask.1 ha
      exact ⟨reply, mid, served, (ih reply).2 ⟨a, mid', ha, h⟩⟩

theorem runs_call {request : Request} {s last : Stores} {reply : request.Reply} :
    Runs service (call request) s reply last ↔ service s request reply last := by
  constructor
  · intro h
    obtain ⟨given, mid, served, h⟩ := runs_ask.1 h
    obtain ⟨rfl, rfl⟩ := runs_done.1 h
    exact served
  · intro served
    exact runs_ask.2 ⟨reply, last, served, runs_done.2 ⟨rfl, rfl⟩⟩

theorem Runs.mono {other : Service} {program : Program α} {value : α} {s last : Stores}
    (run : Runs service program s value last)
    (himp : ∀ {s request reply after}, service s request reply after →
      other s request reply after) : Runs other program s value last := by
  obtain ⟨trace, path⟩ := run
  exact ⟨trace, path.mono himp⟩

/-- Where every request is served in some way, every program comes to an end. -/
theorem exists_runs (serves : ∀ s request, ∃ reply after, service s request reply after)
    (program : Program α) (s : Stores) : ∃ value last, Runs service program s value last := by
  induction program generalizing s with
  | done value => exact ⟨value, s, runs_done.2 ⟨rfl, rfl⟩⟩
  | ask request next ih =>
    obtain ⟨reply, mid, served⟩ := serves s request
    obtain ⟨value, last, h⟩ := ih reply mid
    exact ⟨value, last, runs_ask.2 ⟨reply, mid, served, h⟩⟩

/-- Whatever the replies, the program makes none but allowed requests. -/
def Only (allowed : Request → Prop) : Program α → Prop
  | .done _ => True
  | .ask request next => allowed request ∧ ∀ reply, Only allowed (next reply)

variable {allowed : Request → Prop}

theorem only_pure (value : α) : Only allowed (pure value) := trivial

theorem only_call {request : Request} (h : allowed request) : Only allowed (call request) :=
  ⟨h, fun _ => trivial⟩

theorem Only.bind {program : Program α} {f : α → Program β} (h : Only allowed program)
    (hf : ∀ a, Only allowed (f a)) : Only allowed (program >>= f) := by
  induction program with
  | done a => exact hf a
  | ask request next ih => exact ⟨h.1, fun reply => ih reply (h.2 reply)⟩

theorem only_foldlM {f : β → α → Program β} {xs : List α} {init : β}
    (h : ∀ acc, ∀ x ∈ xs, Only allowed (f acc x)) : Only allowed (xs.foldlM f init) := by
  induction xs generalizing init with
  | nil => exact only_pure init
  | cons x xs ih =>
    rw [List.foldlM_cons]
    exact (h init x (List.mem_cons_self ..)).bind fun next =>
      ih fun acc y hy => h acc y (List.mem_cons_of_mem _ hy)

theorem Only.mono {other : Request → Prop} {program : Program α} (h : Only allowed program)
    (himp : ∀ request, allowed request → other request) : Only other program := by
  induction program with
  | done a => trivial
  | ask request next ih => exact ⟨himp request h.1, fun reply => ih reply (h.2 reply)⟩

/-- What every allowed request keeps up, a program that makes no other keeps up all along its
path. -/
theorem Path.invariant (Inv : Stores → Prop) {program rest : Program α} {s last : Stores}
    {trace : List Request} (path : Path service program s trace rest last)
    (keeps : ∀ {s request reply after}, allowed request → service s request reply after →
      Inv s → Inv after)
    (only : Only allowed program) (h : Inv s) : Inv last := by
  induction path with
  | stop program s => exact h
  | step served onward ih => exact ih (only.2 _) (keeps only.1 served h)

theorem Runs.invariant (Inv : Stores → Prop) {program : Program α} {value : α} {s last : Stores}
    (run : Runs service program s value last)
    (keeps : ∀ {s request reply after}, allowed request → service s request reply after →
      Inv s → Inv after)
    (only : Only allowed program) (h : Inv s) : Inv last := by
  obtain ⟨trace, path⟩ := run
  exact path.invariant Inv keeps only h

end Program

end ShardOperator
