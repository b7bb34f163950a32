import ShardOperator.Proofs.Stores.Serving

namespace ShardOperator.Program

open Simulation

variable {α β : Type} {s : Stores} {post : α → Prop}

/-- Where no call fails, the program only looks at the stores, and its value is as the condition
says. -/
def Reads (s : Stores) (post : α → Prop) : Program α → Prop
  | .done value => post value
  | .ask request next =>
    request.target? = none ∧ ∀ reply, s.Grants request reply s → Reads s post (next reply)

theorem reads_pure {value : α} (h : post value) : Reads s post (pure value) := h

theorem Reads.bind {program : Program α} {f : α → Program β} {after : β → Prop}
    (h : Reads s post program) (hf : ∀ value, post value → Reads s after (f value)) :
    Reads s after (program >>= f) := by
  induction program with
  | done value => exact hf value h
  | ask request next ih =>
    obtain ⟨htarget, hnext⟩ := h
    exact ⟨htarget, fun reply served => ih reply (hnext reply served)⟩

theorem Reads.mono {program : Program α} {weaker : α → Prop} (h : Reads s post program)
    (himp : ∀ value, post value → weaker value) : Reads s weaker program := by
  induction program with
  | done value => exact himp value h
  | ask request next ih => exact ⟨h.1, fun reply served => ih reply (h.2 reply served)⟩

theorem reads_call {request : Request} (h : request.target? = none) :
    Reads s (fun reply => s.Grants request reply s) (call request) :=
  ⟨h, fun _ served => served⟩

theorem reads_foldlM {f : β → α → Program β} {xs : List α} {keeps : β → Prop} {init : β}
    (h : ∀ acc, keeps acc → ∀ x ∈ xs, Reads s keeps (f acc x)) (hinit : keeps init) :
    Reads s keeps (xs.foldlM f init) := by
  induction xs generalizing init with
  | nil => exact reads_pure hinit
  | cons x xs ih =>
    rw [List.foldlM_cons]
    refine (h init hinit x (List.mem_cons_self ..)).bind fun next hnext => ?_
    exact ih (fun acc hacc y hy => h acc hacc y (List.mem_cons_of_mem _ hy)) hnext

/-- A program that only looks at the stores leaves them as they are, wherever it is on its path. -/
theorem Path.reads {program rest : Program α} {last : Stores} {trace : List Request}
    (path : Path Stores.Grants program s trace rest last) (h : Reads s post program) :
    last = s ∧ (∀ request ∈ trace, request.target? = none) ∧ Reads s post rest := by
  induction path with
  | stop program s => exact ⟨rfl, fun _ hmem => absurd hmem List.not_mem_nil, h⟩
  | @step request next s mid last reply trace rest served onward ih =>
    obtain ⟨htarget, hnext⟩ := h
    obtain rfl : mid = s := Stores.Grants.eq_of_target?_eq_none served htarget
    obtain ⟨hlast, htrace, hrest⟩ := ih (hnext reply served)
    refine ⟨hlast, fun request' hmem => ?_, hrest⟩
    rcases List.mem_cons.1 hmem with rfl | hmem
    · exact htarget
    · exact htrace request' hmem

/-- Without a write or a deletion on the path, the stores stay as they are. -/
theorem Path.eq_of_target?_eq_none {program rest : Program α} {last : Stores}
    {trace : List Request} (path : Path Stores.Grants program s trace rest last)
    (h : ∀ request ∈ trace, request.target? = none) : last = s := by
  induction path with
  | stop program s => rfl
  | step served onward ih =>
    have hmid := served.eq_of_target?_eq_none (h _ (List.mem_cons_self ..))
    exact (ih fun request hmem => h request (List.mem_cons_of_mem _ hmem)).trans hmid

end ShardOperator.Program
