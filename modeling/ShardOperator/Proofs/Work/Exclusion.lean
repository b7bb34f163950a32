import ShardOperator.Work.Queue

namespace ShardOperator.Queue

/-- What anyone may do to a queue. -/
inductive Op (κ : Type) where
  | enqueue (key : κ)
  | next
  | done (key : κ)
  | forget (key : κ)
  | close
  deriving DecidableEq

/-- What has been done to a queue, with the answer that came of it. -/
inductive Entry (κ : Type) where
  | enqueued (key : κ) (accepted : Bool)
  | handed (out : HandOut κ)
  | done (key : κ)
  | forgotten (key : κ)
  | closed
  deriving DecidableEq

section Operations

variable {κ : Type} [DecidableEq κ]

def perform (q : Queue κ) : Op κ → Entry κ × Queue κ
  | .enqueue key => (.enqueued key (q.enqueue key).1, (q.enqueue key).2)
  | .next => (.handed q.next.1, q.next.2)
  | .done key => (.done key, q.done key)
  | .forget key => (.forgotten key, q.forget key)
  | .close => (.closed, q.close)

/-- The log of a run, and the queue at its end. -/
def run (q : Queue κ) : List (Op κ) → List (Entry κ) × Queue κ
  | [] => ([], q)
  | op :: ops =>
    let step := q.perform op
    let rest := step.2.run ops
    (step.1 :: rest.1, rest.2)

theorem mem_remove {key other : κ} {keys : List κ} :
    other ∈ remove key keys ↔ other ∈ keys ∧ other ≠ key := by
  simp [remove]

end Operations

section Invariant

variable {κ : Type}

/-- What holds of a queue at all times. -/
structure Exclusive (q : Queue κ) : Prop where
  nodup : q.pending.Nodup
  queued : ∀ key, key ∈ q.pending ↔ key ∈ q.queued
  disjoint : ∀ key ∈ q.queued, key ∉ q.inFlight
  parked : ∀ key ∈ q.parked, key ∈ q.inFlight
  closed : q.closed = true → q.pending = [] ∧ q.queued = [] ∧ q.parked = []

theorem exclusive_empty : Exclusive ({} : Queue κ) where
  nodup := List.nodup_nil
  queued _ := Iff.rfl
  disjoint _ h := absurd h List.not_mem_nil
  parked _ h := absurd h List.not_mem_nil
  closed _ := ⟨rfl, rfl, rfl⟩

theorem exclusive_close (q : Queue κ) : q.close.Exclusive where
  nodup := List.nodup_nil
  queued _ := Iff.rfl
  disjoint _ hmem := absurd hmem List.not_mem_nil
  parked _ hmem := absurd hmem List.not_mem_nil
  closed _ := ⟨rfl, rfl, rfl⟩

variable [DecidableEq κ]

/-- A key that waits for nothing and is in nobody's hands may join the waiting keys. -/
theorem exclusive_join {q : Queue κ} (h : q.Exclusive) {key : κ} (hopen : q.closed = false)
    (hqueued : key ∉ q.queued) (hflight : key ∉ q.inFlight) :
    Exclusive { q with pending := q.pending ++ [key], queued := q.queued.insert key } := by
  have hpending : key ∉ q.pending := fun hmem => hqueued ((h.queued key).1 hmem)
  constructor
  · rw [List.nodup_append]
    refine ⟨h.nodup, List.pairwise_singleton .., fun a ha b hb hab => ?_⟩
    rw [hab, List.mem_singleton.1 hb] at ha
    exact hpending ha
  · intro other
    have hq := h.queued other
    simp only [List.mem_append, List.mem_singleton, List.mem_insert_iff, hq]
    exact or_comm
  · intro other hother
    rcases List.mem_insert_iff.1 hother with rfl | hother
    · exact hflight
    · exact h.disjoint other hother
  · exact h.parked
  · intro hclosed
    rw [show q.closed = true from hclosed] at hopen
    cases hopen

theorem exclusive_enqueue {q : Queue κ} (h : q.Exclusive) (key : κ) :
    (q.enqueue key).2.Exclusive := by
  unfold enqueue
  split
  · exact h
  · next hcond =>
    simp only [Bool.or_eq_true, not_or, Bool.not_eq_true, List.contains_eq_mem,
      decide_eq_false_iff_not] at hcond
    obtain ⟨hopen, hqueued⟩ := hcond
    split
    · next hflight =>
      have hflight : key ∈ q.inFlight := by simpa using hflight
      refine { h with parked := fun other hother => ?_, closed := fun hclosed => ?_ }
      · rcases List.mem_insert_iff.1 hother with rfl | hother
        · exact hflight
        · exact h.parked other hother
      · rw [show q.closed = true from hclosed] at hopen
        cases hopen
    · next hflight =>
      have hflight : key ∉ q.inFlight := by simpa using hflight
      exact exclusive_join h hopen hqueued hflight

/-- The first waiting key changes from waiting to being in flight. -/
theorem exclusive_next {q : Queue κ} (h : q.Exclusive) : q.next.2.Exclusive := by
  unfold next
  split
  · exact h
  · next hopen =>
    split
    · exact h
    · next key rest hpending =>
      have hnodup : (key :: rest).Nodup := hpending ▸ h.nodup
      obtain ⟨hkey, hrest⟩ := List.nodup_cons.1 hnodup
      constructor
      · exact hrest
      · intro other
        have hother := h.queued other
        rw [hpending, List.mem_cons] at hother
        rw [mem_remove, ← hother]
        constructor
        · intro hmem
          exact ⟨.inr hmem, fun e => hkey (e ▸ hmem)⟩
        · rintro ⟨rfl | hmem, hne⟩
          · exact absurd rfl hne
          · exact hmem
      · intro other hother hflight
        obtain ⟨hqueued, hne⟩ := mem_remove.1 hother
        rcases List.mem_insert_iff.1 hflight with rfl | hflight
        · exact hne rfl
        · exact h.disjoint other hqueued hflight
      · intro other hother
        exact List.mem_insert_of_mem (h.parked other hother)
      · intro hclosed
        exact absurd hclosed hopen

theorem exclusive_release {q : Queue κ} (h : q.Exclusive) (key : κ) :
    Exclusive { q with inFlight := remove key q.inFlight, parked := remove key q.parked } := by
  refine { h with disjoint := fun other hother => ?_, parked := fun other hother => ?_,
                  closed := fun hclosed => ?_ }
  · intro hflight
    exact h.disjoint other hother (mem_remove.1 hflight).1
  · obtain ⟨hparked, hne⟩ := mem_remove.1 hother
    exact mem_remove.2 ⟨h.parked other hparked, hne⟩
  · obtain ⟨hpending, hqueued, hparked⟩ := h.closed hclosed
    exact ⟨hpending, hqueued, by rw [hparked]; rfl⟩

/-- A parked key is in flight, so that it does not wait yet when it is to wait again. -/
theorem exclusive_done {q : Queue κ} (h : q.Exclusive) (key : κ) : (q.done key).Exclusive := by
  have hrelease := exclusive_release h key
  unfold done
  extract_lets taken
  split
  · next hcond =>
    simp only [Bool.and_eq_true, List.contains_eq_mem, decide_eq_true_eq,
      Bool.not_eq_true'] at hcond
    obtain ⟨hparked, hopen⟩ := hcond
    have hqueued : key ∉ q.queued := fun hmem => h.disjoint key hmem (h.parked key hparked)
    have hflight : key ∉ remove key q.inFlight := fun hmem => (mem_remove.1 hmem).2 rfl
    exact exclusive_join hrelease hopen hqueued hflight
  · exact hrelease

theorem exclusive_forget {q : Queue κ} (h : q.Exclusive) (key : κ) :
    (q.forget key).Exclusive := by
  have hpending (other : κ) : other ∈ (q.forget key).pending ↔ other ∈ q.pending ∧ other ≠ key := by
    unfold forget
    by_cases hmem : key ∈ q.queued
    · simp [hmem, mem_remove]
    · have hkey : key ∉ q.pending := fun hp => hmem ((h.queued key).1 hp)
      have hne : other ∈ q.pending → other ≠ key := fun hp e => hkey (e ▸ hp)
      simpa [hmem] using hne
  constructor
  · unfold forget
    dsimp only
    split
    · exact h.nodup.filter _
    · exact h.nodup
  · intro other
    rw [hpending, h.queued]
    exact mem_remove.symm
  · intro other hother
    exact h.disjoint other (mem_remove.1 hother).1
  · intro other hother
    exact h.parked other (mem_remove.1 hother).1
  · intro hclosed
    obtain ⟨hp, hq, hr⟩ := h.closed hclosed
    simp [forget, hp, hq, hr, remove]

theorem exclusive_perform {q : Queue κ} (h : q.Exclusive) (op : Op κ) :
    (q.perform op).2.Exclusive := by
  cases op with
  | enqueue key => exact exclusive_enqueue h key
  | next => exact exclusive_next h
  | done key => exact exclusive_done h key
  | forget key => exact exclusive_forget h key
  | close => exact exclusive_close q

theorem exclusive_run {q : Queue κ} (h : q.Exclusive) (ops : List (Op κ)) :
    (q.run ops).2.Exclusive := by
  induction ops generalizing q with
  | nil => exact h
  | cons op ops ih => exact ih (exclusive_perform h op)

/-- A key is handed out from the head of the waiting keys. -/
theorem next_eq_key {q : Queue κ} {key : κ} (h : q.next.1 = .key key) :
    ∃ rest, q.pending = key :: rest ∧ q.next.2.pending = rest ∧
      q.next.2.inFlight = q.inFlight.insert key ∧ q.next.2.parked = q.parked := by
  unfold next at h ⊢
  split at h
  · cases h
  · next hopen =>
    rw [if_neg hopen]
    split at h
    · cases h
    · next first rest hpending =>
      obtain rfl := HandOut.key.inj h
      exact ⟨rest, hpending, rfl, rfl, rfl⟩

end Invariant

section Holders

variable {κ : Type} [DecidableEq κ]

/-- The holders of a key after a log entry, from those before it. Whoever is done without having
been handed the key changes nothing. -/
def holdersAfter (key : κ) (holders : Nat) : Entry κ → Nat
  | .handed (.key other) => if other = key then holders + 1 else holders
  | .done other => if other = key then holders - 1 else holders
  | .handed _ | .enqueued .. | .forgotten _ | .closed => holders

/-- The number of those who have been handed a key and are not done. -/
def holders (key : κ) (log : List (Entry κ)) : Nat := log.foldl (holdersAfter key) 0

end Holders

end ShardOperator.Queue
