import ShardOperator.Proofs.Work.Exclusion

namespace ShardOperator.Queue

variable {κ : Type} [DecidableEq κ]

/-- An operation that asks for work, takes work or finishes it. -/
def Op.IsWork : Op κ → Prop
  | .enqueue _ | .next | .done _ => True
  | .forget _ | .close => False

/-- The hand-outs that are still to come for a key. -/
def owed (q : Queue κ) (key : κ) : Nat :=
  (if key ∈ q.pending then 1 else 0) + (if key ∈ q.parked then 1 else 0)

/-- The key that a log entry tells the hand-out of. -/
def Entry.served? : Entry κ → Option κ
  | .handed (.key key) => some key
  | .handed _ | .enqueued .. | .done _ | .forgotten _ | .closed => none

/-- The keys handed out along a log, the first one first. -/
def served (log : List (Entry κ)) : List κ := log.filterMap Entry.served?

/-- What a request does to an open queue. -/
theorem enqueue_cases {q : Queue κ} (hopen : q.closed = false) (key : κ) :
    (key ∈ q.queued ∧ q.enqueue key = (false, q)) ∨
      (key ∉ q.queued ∧ key ∈ q.inFlight ∧
        q.enqueue key = (!decide (key ∈ q.parked), { q with parked := q.parked.insert key })) ∨
      (key ∉ q.queued ∧ key ∉ q.inFlight ∧
        q.enqueue key =
          (true, { q with pending := q.pending ++ [key], queued := q.queued.insert key })) := by
  by_cases hqueued : key ∈ q.queued
  · exact .inl ⟨hqueued, by simp [enqueue, hqueued]⟩
  · by_cases hflight : key ∈ q.inFlight
    · exact .inr (.inl ⟨hqueued, hflight, by simp [enqueue, hopen, hqueued, hflight]⟩)
    · exact .inr (.inr ⟨hqueued, hflight, by simp [enqueue, hopen, hqueued, hflight]⟩)

/-- What a request for work does to an open queue. -/
theorem next_cases {q : Queue κ} (hopen : q.closed = false) :
    (q.pending = [] ∧ q.next = (.nothing, q)) ∨
      ∃ key rest, q.pending = key :: rest ∧ q.next.1 = .key key ∧ q.next.2.pending = rest ∧
        q.next.2.parked = q.parked ∧ q.next.2.closed = false := by
  cases hpending : q.pending with
  | nil => exact .inl ⟨rfl, by simp [next, hopen, hpending]⟩
  | cons key rest =>
    refine .inr ⟨key, rest, rfl, ?_⟩
    simp [next, hopen, hpending]

/-- What the end of work does to an open queue. -/
theorem done_cases {q : Queue κ} (hopen : q.closed = false) (key : κ) :
    (q.done key).closed = false ∧ (q.done key).parked = remove key q.parked ∧
      (key ∈ q.parked ∧ (q.done key).pending = q.pending ++ [key] ∨
        key ∉ q.parked ∧ (q.done key).pending = q.pending) := by
  by_cases hparked : key ∈ q.parked
  · have hdone : q.done key =
        { q with inFlight := remove key q.inFlight, parked := remove key q.parked,
                 pending := q.pending ++ [key], queued := q.queued.insert key } := by
      simp [done, hparked, hopen]
    rw [hdone]
    exact ⟨hopen, rfl, .inl ⟨hparked, rfl⟩⟩
  · have hdone : q.done key =
        { q with inFlight := remove key q.inFlight, parked := remove key q.parked } := by
      simp [done, hparked]
    rw [hdone]
    exact ⟨hopen, rfl, .inr ⟨hparked, rfl⟩⟩

/-- Work leaves an open queue open. -/
theorem open_perform {q : Queue κ} (hopen : q.closed = false) {op : Op κ} (h : op.IsWork) :
    (q.perform op).2.closed = false := by
  cases op with
  | enqueue key =>
    rcases enqueue_cases hopen key with ⟨-, he⟩ | ⟨-, -, he⟩ | ⟨-, -, he⟩
    all_goals
      change (q.enqueue key).2.closed = false
      rw [he]
      exact hopen
  | next =>
    rcases next_cases hopen with ⟨-, hn⟩ | ⟨key, rest, -, -, -, -, hn⟩
    · change q.next.2.closed = false
      rw [hn]
      exact hopen
    · exact hn
  | done key => exact (done_cases hopen key).1
  | forget key | close => exact h.elim

theorem open_run {q : Queue κ} (hopen : q.closed = false) {ops : List (Op κ)}
    (h : ∀ op ∈ ops, op.IsWork) : (q.run ops).2.closed = false := by
  induction ops generalizing q with
  | nil => exact hopen
  | cons op ops ih =>
    have hop := open_perform hopen (h op (List.mem_cons_self ..))
    exact ih hop fun other hother => h other (List.mem_cons_of_mem _ hother)

/-- A request that is accepted is owed from then on, and a hand-out settles it. -/
theorem owed_perform {q : Queue κ} (hq : q.Exclusive) (hopen : q.closed = false) {op : Op κ}
    (h : op.IsWork) (key : κ) :
    [(q.perform op).1].count (.enqueued key true) + q.owed key =
      [(q.perform op).1].count (.handed (.key key)) + (q.perform op).2.owed key := by
  cases op with
  | enqueue other =>
    rcases enqueue_cases hopen other with ⟨-, he⟩ | ⟨-, -, he⟩ | ⟨hqueued, hflight, he⟩
    · simp [perform, he]
    · by_cases hkey : other = key
      · subst hkey
        by_cases hparked : other ∈ q.parked
        · simp [perform, he, owed, hparked]
        · simp [perform, he, owed, hparked]
          omega
      · have hne : key ≠ other := fun e => hkey e.symm
        simp [perform, he, owed, hkey, hne]
    · have hpending : other ∉ q.pending := fun hmem => hqueued ((hq.queued other).1 hmem)
      have hparked : other ∉ q.parked := fun hmem => hflight (hq.parked other hmem)
      by_cases hkey : other = key
      · subst hkey
        simp [perform, he, owed, hpending, hparked]
      · have hne : key ≠ other := fun e => hkey e.symm
        simp [perform, he, owed, hkey, hne]
  | next =>
    rcases next_cases hopen with ⟨-, hn⟩ | ⟨other, rest, hpending, hkey, hrest, hparked, -⟩
    · simp [perform, hn]
    · have hnodup : (other :: rest).Nodup := hpending ▸ hq.nodup
      have hother : other ∉ rest := (List.nodup_cons.1 hnodup).1
      simp only [perform, hkey, owed, hrest, hparked, hpending, List.mem_cons]
      by_cases heq : other = key
      · subst heq
        simp [hother]
      · have hne : key ≠ other := fun e => heq e.symm
        simp [heq, hne]
  | done other =>
    obtain ⟨-, hparked, hpending | hpending⟩ := done_cases hopen other
    · have hwaits : other ∉ q.pending := fun hmem =>
        hq.disjoint other ((hq.queued other).1 hmem) (hq.parked other hpending.1)
      simp only [perform, owed, hparked, hpending.2, mem_remove, List.mem_append,
        List.mem_singleton]
      by_cases heq : key = other
      · subst heq
        simp [hpending.1, hwaits]
      · simp [heq]
    · simp only [perform, owed, hparked, hpending.2, mem_remove]
      by_cases heq : key = other
      · subst heq
        simp [hpending.1]
      · simp [heq]
  | forget other | close => exact h.elim

theorem owed_run {q : Queue κ} (hq : q.Exclusive) (hopen : q.closed = false) {ops : List (Op κ)}
    (h : ∀ op ∈ ops, op.IsWork) (key : κ) :
    (q.run ops).1.count (.enqueued key true) + q.owed key =
      (q.run ops).1.count (.handed (.key key)) + (q.run ops).2.owed key := by
  induction ops generalizing q with
  | nil => simp [run]
  | cons op ops ih =>
    have hop := h op (List.mem_cons_self ..)
    have hstep := owed_perform hq hopen hop key
    have hrest := ih (exclusive_perform hq op) (open_perform hopen hop)
      fun other hother => h other (List.mem_cons_of_mem _ hother)
    change ((q.perform op).1 :: ((q.perform op).2.run ops).1).count _ + _ =
      ((q.perform op).1 :: ((q.perform op).2.run ops).1).count _ + _
    rw [List.count_cons, List.count_cons]
    rw [List.count_singleton, List.count_singleton] at hstep
    change _ = _ + ((q.perform op).2.run ops).2.owed key
    omega

/-- A key joins the waiting keys at their end, and leaves them at their head. -/
theorem order_perform {q : Queue κ} (hopen : q.closed = false) {op : Op κ} (h : op.IsWork) :
    ∃ joined,
      q.pending ++ joined = (q.perform op).1.served?.toList ++ (q.perform op).2.pending := by
  cases op with
  | enqueue key =>
    rcases enqueue_cases hopen key with ⟨-, he⟩ | ⟨-, -, he⟩ | ⟨-, -, he⟩
    · exact ⟨[], by simp [perform, he, Entry.served?]⟩
    · exact ⟨[], by simp [perform, he, Entry.served?]⟩
    · exact ⟨[key], by simp [perform, he, Entry.served?]⟩
  | next =>
    rcases next_cases hopen with ⟨-, hn⟩ | ⟨key, rest, hpending, hkey, hrest, -, -⟩
    · exact ⟨[], by simp [perform, hn, Entry.served?]⟩
    · exact ⟨[], by simp [perform, hkey, hrest, hpending, Entry.served?]⟩
  | done key =>
    obtain ⟨-, -, hpending | hpending⟩ := done_cases hopen key
    · exact ⟨[key], by simp [perform, hpending.2, Entry.served?]⟩
    · exact ⟨[], by simp [perform, hpending.2, Entry.served?]⟩
  | forget key | close => exact h.elim

theorem served_run_cons (q : Queue κ) (op : Op κ) (ops : List (Op κ)) :
    served (q.run (op :: ops)).1 =
      (q.perform op).1.served?.toList ++ served ((q.perform op).2.run ops).1 := by
  change List.filterMap _ (_ :: _) = _
  rw [List.filterMap_cons]
  cases (q.perform op).1.served? <;> rfl

/-- What waits at first and what joins later is handed out in this order. -/
theorem order_run {q : Queue κ} (hopen : q.closed = false) {ops : List (Op κ)}
    (h : ∀ op ∈ ops, op.IsWork) :
    ∃ joined, q.pending ++ joined = served (q.run ops).1 ++ (q.run ops).2.pending := by
  induction ops generalizing q with
  | nil => exact ⟨[], List.append_nil _⟩
  | cons op ops ih =>
    have hop := h op (List.mem_cons_self ..)
    obtain ⟨first, hfirst⟩ := order_perform hopen hop
    obtain ⟨later, hlater⟩ := ih (open_perform hopen hop)
      fun other hother => h other (List.mem_cons_of_mem _ hother)
    refine ⟨first ++ later, ?_⟩
    calc q.pending ++ (first ++ later)
        = (q.perform op).1.served?.toList ++ (q.perform op).2.pending ++ later := by
          rw [← List.append_assoc, hfirst]
      _ = served (q.run (op :: ops)).1 ++ ((q.perform op).2.run ops).2.pending := by
          rw [List.append_assoc, hlater, ← List.append_assoc, served_run_cons]

/-- Every request for work is served as long as a key waits that has waited from the beginning. -/
theorem served_of_next {q : Queue κ} (hopen : q.closed = false) {ops : List (Op κ)}
    (h : ∀ op ∈ ops, op.IsWork) :
    min (ops.count .next) q.pending.length ≤ (served (q.run ops).1).length := by
  induction ops generalizing q with
  | nil => simp
  | cons op ops ih =>
    have hop := h op (List.mem_cons_self ..)
    have hrest := ih (open_perform hopen hop)
      fun other hother => h other (List.mem_cons_of_mem _ hother)
    obtain ⟨joined, horder⟩ := order_perform hopen hop
    have hlength := congrArg List.length horder
    rw [List.length_append, List.length_append] at hlength
    rw [served_run_cons, List.length_append, List.count_cons]
    by_cases hnext : op = .next
    · subst hnext
      rcases next_cases hopen with ⟨hpending, -⟩ | ⟨key, rest, hpending, hkey, -, -, -⟩
      · simp [hpending]
      · have hserved : (q.perform .next).1.served?.toList.length = 1 := by
          simp [perform, hkey, Entry.served?]
        simp only [beq_self_eq_true, if_true]
        omega
    · have hserved : (q.perform op).1.served?.toList.length = 0 := by
        cases op <;> simp_all [perform, Entry.served?]
      simp only [beq_iff_eq, hnext, if_false]
      omega

/-- A key with `n` keys before it is not among the next `n` that are handed out, and is the one
after them. -/
theorem served_after {q : Queue κ} (hq : q.Exclusive) (hopen : q.closed = false)
    {front back : List κ} {key : κ} (hpending : q.pending = front ++ key :: back)
    {ops : List (Op κ)} (h : ∀ op ∈ ops, op.IsWork) :
    key ∉ (served (q.run ops).1).take front.length ∧
      (front.length < ops.count .next → front.length < (served (q.run ops).1).length) ∧
      (front.length < (served (q.run ops).1).length →
        (served (q.run ops).1)[front.length]? = some key) := by
  obtain ⟨joined, horder⟩ := order_run hopen h
  rw [hpending, List.append_assoc, List.cons_append] at horder
  have hfront : key ∉ front := by
    have hnodup := hq.nodup
    rw [hpending, List.nodup_append] at hnodup
    exact fun hmem => hnodup.2.2 key hmem key (List.mem_cons_self ..) rfl
  refine ⟨fun hmem => ?_, fun hcount => ?_, fun hlength => ?_⟩
  · have hfirst : (served (q.run ops).1).take front.length <+: front := by
      have htake := congrArg (List.take front.length) horder
      rw [List.take_left, List.take_append] at htake
      exact ⟨_, htake.symm⟩
    exact hfront (hfirst.subset hmem)
  · have hserved := served_of_next hopen h
    have hwaiting : front.length < q.pending.length := by
      rw [hpending, List.length_append, List.length_cons]
      omega
    omega
  · have hget := congrArg (·[front.length]?) horder
    simp only [List.getElem?_append_right (Nat.le_refl front.length), Nat.sub_self,
      List.getElem?_cons_zero, List.getElem?_append_left hlength] at hget
    exact hget.symm

/-- Whatever waits or is parked can still be handed out. -/
theorem exists_served {q : Queue κ} (hq : q.Exclusive) (hopen : q.closed = false) {key : κ}
    (h : key ∈ q.pending ∨ key ∈ q.parked) :
    ∃ ops : List (Op κ), (∀ op ∈ ops, op.IsWork) ∧ key ∈ served (q.run ops).1 := by
  have waiting {r : Queue κ} (hr : r.Exclusive) (ropen : r.closed = false)
      (hmem : key ∈ r.pending) :
      ∃ ops : List (Op κ), (∀ op ∈ ops, op.IsWork) ∧ key ∈ served (r.run ops).1 := by
    obtain ⟨front, back, hpending⟩ := List.append_of_mem hmem
    have hwork : ∀ op ∈ List.replicate (front.length + 1) (.next : Op κ), op.IsWork := by
      intro op hop
      rw [List.eq_of_mem_replicate hop]
      trivial
    obtain ⟨-, hcount, hget⟩ := served_after hr ropen hpending hwork
    refine ⟨_, hwork, ?_⟩
    have hlength := hcount (by rw [List.count_replicate_self]; omega)
    exact List.mem_of_getElem? (hget hlength)
  rcases h with hmem | hparked
  · exact waiting hq hopen hmem
  · have hwork : (Op.done key).IsWork := trivial
    have hmem : key ∈ (q.done key).pending := by
      obtain ⟨-, -, hpending | hpending⟩ := done_cases hopen key
      · simp [hpending.2]
      · exact absurd hparked hpending.1
    obtain ⟨ops, hops, hserved⟩ :=
      waiting (exclusive_done hq key) (done_cases hopen key).1 hmem
    refine ⟨.done key :: ops, ?_, ?_⟩
    · intro op hop
      rcases List.mem_cons.1 hop with rfl | hop
      · exact hwork
      · exact hops op hop
    · rw [served_run_cons]
      exact List.mem_append_right _ hserved

/-- A key that comes to wait does so behind all others. -/
theorem pending_perform {q : Queue κ} (hopen : q.closed = false) {op : Op κ} (h : op.IsWork)
    {key : κ} (hbefore : key ∉ q.pending) (hafter : key ∈ (q.perform op).2.pending) :
    (q.perform op).2.pending = q.pending ++ [key] := by
  have last {other : κ} (hpending : (q.perform op).2.pending = q.pending ++ [other]) :
      (q.perform op).2.pending = q.pending ++ [key] := by
    rw [hpending, List.mem_append, List.mem_singleton] at hafter
    rcases hafter with hmem | rfl
    · exact absurd hmem hbefore
    · exact hpending
  cases op with
  | enqueue other =>
    rcases enqueue_cases hopen other with ⟨-, he⟩ | ⟨-, -, he⟩ | ⟨-, -, he⟩
    · rw [perform, he] at hafter
      exact absurd hafter hbefore
    · rw [perform, he] at hafter
      exact absurd hafter hbefore
    · exact last (by rw [perform, he])
  | next =>
    rcases next_cases hopen with ⟨-, hn⟩ | ⟨other, rest, hpending, -, hrest, -, -⟩
    · rw [perform, hn] at hafter
      exact absurd hafter hbefore
    · rw [perform, hrest] at hafter
      rw [hpending] at hbefore
      exact absurd (List.mem_cons_of_mem _ hafter) hbefore
  | done other =>
    obtain ⟨-, -, hpending | hpending⟩ := done_cases hopen other
    · exact last hpending.2
    · rw [perform, hpending.2] at hafter
      exact absurd hafter hbefore
  | forget other | close => exact h.elim

theorem mem_of_enqueue_false {q : Queue κ} (hq : q.Exclusive) (hopen : q.closed = false) {key : κ}
    (h : (q.enqueue key).1 = false) :
    key ∈ (q.enqueue key).2.pending ∨ key ∈ (q.enqueue key).2.parked := by
  rcases enqueue_cases hopen key with ⟨hqueued, he⟩ | ⟨-, -, he⟩ | ⟨-, -, he⟩
  · rw [he]
    exact .inl ((hq.queued key).2 hqueued)
  · rw [he]
    exact .inr (List.mem_insert_iff.2 (.inl rfl))
  · rw [he] at h
    cases h

/-- Requests are neither lost nor multiplied, and served in order. In every state that an open queue
can come to, each accepted request has been served or still waits, a request that is merged into
another leaves the key waiting, and a key that comes to wait behind `n` others is handed out after
exactly `n` more hand-outs. -/
theorem requests_served {ops : List (Op κ)} (h : ∀ op ∈ ops, op.IsWork) :
    let log := (run {} ops).1
    let q := (run {} ops).2
    (∀ key, log.count (.enqueued key true) =
      log.count (.handed (.key key)) +
        (if key ∈ q.pending then 1 else 0) + (if key ∈ q.parked then 1 else 0)) ∧
    (∀ key, (q.enqueue key).1 = false →
      let r := (q.enqueue key).2
      (key ∈ r.pending ∨ key ∈ r.parked) ∧
        ∃ more : List (Op κ), (∀ op ∈ more, op.IsWork) ∧ key ∈ served (r.run more).1) ∧
    ∀ op : Op κ, op.IsWork → ∀ key, key ∉ q.pending →
      let r := (q.perform op).2
      key ∈ r.pending → r.pending = q.pending ++ [key] ∧
        ∀ more : List (Op κ), (∀ op ∈ more, op.IsWork) →
          let n := q.pending.length
          let out := served (r.run more).1
          key ∉ out.take n ∧ (n < more.count .next → n < out.length) ∧
            (n < out.length → out[n]? = some key) := by
  intro log q
  have hq : q.Exclusive := exclusive_run exclusive_empty ops
  have hopen : q.closed = false := open_run rfl h
  refine ⟨fun key => ?_, fun key hfalse => ?_, fun op hop key hbefore => ?_⟩
  · have hcount := owed_run exclusive_empty rfl h key
    have hstart : owed ({} : Queue κ) key = 0 := by simp [owed]
    rw [hstart] at hcount
    rw [Nat.add_assoc]
    exact hcount
  · intro r
    have hmem := mem_of_enqueue_false hq hopen hfalse
    have hwork : (Op.enqueue key).IsWork := trivial
    exact ⟨hmem, exists_served (exclusive_enqueue hq key) (open_perform hopen hwork) hmem⟩
  · intro r hafter
    have hpending := pending_perform hopen hop hbefore hafter
    exact ⟨hpending, fun more hmore =>
      served_after (exclusive_perform hq op) (open_perform hopen hop) hpending hmore⟩

/-- The general result at a run in which a key is requested again while it is in flight. -/
theorem requests_served_again :
    let ops : List (Op Nat) := [.enqueue 1, .enqueue 2, .next, .enqueue 1, .done 1, .next]
    (∀ op ∈ ops, op.IsWork) ∧
      (run {} ops).1.count (.enqueued 1 true) = (run {} ops).1.count (.handed (.key 1)) + 1 := by
  intro ops
  have hwork : ∀ op ∈ ops, op.IsWork := by
    intro op hop
    simp only [ops, List.mem_cons, List.not_mem_nil, or_false] at hop
    rcases hop with rfl | rfl | rfl | rfl | rfl | rfl <;> trivial
  have hcount := (requests_served hwork).1 1
  have hpending : 1 ∈ (run {} ops).2.pending := by decide
  have hparked : 1 ∉ (run {} ops).2.parked := by decide
  rw [if_pos hpending, if_neg hparked] at hcount
  exact ⟨hwork, hcount⟩

end ShardOperator.Queue
