import Mathlib.Data.List.Induction
import ShardOperator.Work.Requeue

namespace ShardOperator

namespace Requeue

/-- What happens to delayed requests. Timers are counted in the order in which they are set, and any
of them may expire at any time. -/
inductive Op where
  | schedule (key : InstallationKey)
  | forget (key : InstallationKey)
  | expire (timer : Nat)
  deriving DecidableEq

/-- How often a key has been scheduled since it was last forgotten. -/
def rounds (key : InstallationKey) (ops : List Op) : Nat :=
  (ops.reverse.takeWhile (· ≠ .forget key)).count (.schedule key)

section Rounds

variable {key : InstallationKey}

theorem rounds_concat_schedule (ops : List Op) (other : InstallationKey) :
    rounds key (ops ++ [.schedule other]) =
      if other = key then rounds key ops + 1 else rounds key ops := by
  unfold rounds
  rw [List.reverse_concat, List.takeWhile_cons_of_pos (by simp), List.count_cons]
  by_cases hkey : other = key <;> simp [hkey]

theorem rounds_concat_forget (ops : List Op) (other : InstallationKey) :
    rounds key (ops ++ [.forget other]) = if other = key then 0 else rounds key ops := by
  unfold rounds
  rw [List.reverse_concat]
  split
  · next hkey =>
    rw [List.takeWhile_cons_of_neg (by simp [hkey]), List.count_nil]
  · next hkey =>
    rw [List.takeWhile_cons_of_pos (by simp [hkey]), List.count_cons_of_ne (by simp)]

theorem rounds_concat_expire (ops : List Op) (timer : Nat) :
    rounds key (ops ++ [.expire timer]) = rounds key ops := by
  unfold rounds
  rw [List.reverse_concat, List.takeWhile_cons_of_pos (by simp), List.count_cons_of_ne (by simp)]

theorem rounds_append {ops more : List Op} (hkept : .forget key ∉ more) :
    rounds key (ops ++ more) = rounds key ops + more.count (.schedule key) := by
  have hall : ∀ op ∈ more.reverse, decide (op ≠ .forget key) = true := by
    intro op hmem
    refine decide_eq_true ?_
    rintro rfl
    exact hkept (List.mem_reverse.1 hmem)
  unfold rounds
  rw [List.reverse_append, List.takeWhile_append_of_pos hall, List.count_append, List.count_reverse,
    Nat.add_comm]

theorem rounds_forgotten {ops more : List Op} (hkept : .forget key ∉ more) :
    rounds key (ops ++ .forget key :: more) = more.count (.schedule key) := by
  rw [← List.singleton_append, ← List.append_assoc, rounds_append hkept, rounds_concat_forget,
    if_pos rfl, Nat.zero_add]

end Rounds

/-- Delayed requests with all timers that have been set, and the queue they make requests to. -/
structure Timed where
  requeue : Requeue := {}
  /-- For each timer its key and the ticket that it carries. -/
  timers : List (InstallationKey × Nat) := []
  queue : Queue InstallationKey := {}

namespace Timed

def perform (s : Timed) : Op → Timed
  | .schedule key =>
    { s with
      requeue := (s.requeue.schedule key).2
      timers := s.timers ++ [(key, (s.requeue.schedule key).1)] }
  | .forget key => { s with requeue := s.requeue.forget key }
  | .expire timer =>
    match s.timers[timer]? with
    | some (key, ticket) => { s with queue := s.requeue.expire key ticket s.queue }
    | none => s

def run (ops : List Op) : Timed := ops.foldl perform {}

theorem run_concat (ops : List Op) (op : Op) : run (ops ++ [op]) = (run ops).perform op := by
  unfold run
  rw [List.foldl_append]
  rfl

/-- An expiry changes nothing but the queue. -/
theorem perform_expire (s : Timed) (timer : Nat) :
    (s.perform (.expire timer)).requeue = s.requeue ∧
      (s.perform (.expire timer)).timers = s.timers := by
  unfold perform
  dsimp only
  split <;> exact ⟨rfl, rfl⟩

variable {s : Timed} {ops : List Op} {key : InstallationKey}

/-- The tickets count the rounds. -/
def Counts (s : Timed) (ops : List Op) : Prop :=
  ∀ key, s.requeue.tickets.find? key = if rounds key ops = 0 then none else some (rounds key ops)

theorem Counts.ticket (h : s.Counts ops) (key : InstallationKey) :
    (s.requeue.schedule key).1 = rounds key (ops ++ [.schedule key]) := by
  have hlast : (s.requeue.tickets.find? key).getD 0 = rounds key ops := by
    rw [h key]
    split
    · next hzero => exact hzero.symm
    · rfl
  rw [rounds_concat_schedule, if_pos rfl, ← hlast]
  rfl

theorem Counts.perform (h : s.Counts ops) (op : Op) : (s.perform op).Counts (ops ++ [op]) := by
  intro key
  cases op with
  | schedule other =>
    change (s.requeue.tickets.insert other (s.requeue.schedule other).1).find? key = _
    rw [Table.find?_insert, h.ticket, rounds_concat_schedule, rounds_concat_schedule, if_pos rfl]
    by_cases hkey : other = key
    · subst hkey
      rw [if_pos rfl, if_pos rfl, if_neg (Nat.succ_ne_zero _)]
    · rw [if_neg hkey, if_neg hkey]
      exact h key
  | forget other =>
    change (s.requeue.tickets.erase other).find? key = _
    rw [Table.find?_erase, rounds_concat_forget]
    by_cases hkey : other = key
    · rw [if_pos hkey, if_pos hkey, if_pos rfl]
    · rw [if_neg hkey, if_neg hkey]
      exact h key
  | expire timer =>
    rw [(s.perform_expire timer).1, rounds_concat_expire]
    exact h key

theorem counts_run (ops : List Op) : (run ops).Counts ops := by
  induction ops using List.reverseRecOn with
  | nil => exact fun _ => rfl
  | append_singleton ops op ih =>
    rw [run_concat]
    exact ih.perform op

theorem isCurrent_iff (h : s.Counts ops) {ticket : Nat} (hticket : ticket ≠ 0) :
    s.requeue.isCurrent key ticket = true ↔ rounds key ops = ticket := by
  unfold isCurrent
  rw [decide_eq_true_iff, h key]
  split
  · next hzero =>
    rw [hzero]
    exact ⟨nofun, fun heq => absurd heq.symm hticket⟩
  · exact Option.some_inj

theorem timers_extend (s : Timed) (op : Op) : s.timers <+: (s.perform op).timers := by
  cases op with
  | schedule key => exact List.prefix_append ..
  | forget key => exact List.prefix_rfl
  | expire timer =>
    have hsame := (s.perform_expire timer).2
    exact hsame ▸ List.prefix_rfl

/-- A timer keeps the ticket it has been set with. -/
theorem timers_run_extend (ops more : List Op) :
    (run ops).timers <+: (run (ops ++ more)).timers := by
  induction more using List.reverseRecOn with
  | nil => exact (List.append_nil ops).symm ▸ List.prefix_rfl
  | append_singleton more op ih =>
    rw [← List.append_assoc, run_concat]
    exact ih.trans (timers_extend ..)

theorem timer_of_schedule (earlier later : List Op) (key : InstallationKey) :
    (run (earlier ++ .schedule key :: later)).timers[(run earlier).timers.length]? =
      some (key, rounds key (earlier ++ [.schedule key])) := by
  have hset : (run (earlier ++ [.schedule key])).timers =
      (run earlier).timers ++ [(key, rounds key (earlier ++ [.schedule key]))] := by
    rw [run_concat, ← (counts_run earlier).ticket]
    rfl
  have hprefix := timers_run_extend (earlier ++ [.schedule key]) later
  rw [List.append_assoc, List.singleton_append, hset] at hprefix
  obtain ⟨rest, hrest⟩ := hprefix
  rw [← hrest, List.append_assoc, List.getElem?_append_right (Nat.le_refl _), Nat.sub_self]
  rfl

/-- A timer requests its key if the key has been scheduled as often since it was last forgotten as
when the timer was set. Until the key is forgotten these are the timers that nobody has superseded;
once it has been, they are those with as many schedules before them as there have been since. -/
theorem expiry_requests (earlier later : List Op) (key : InstallationKey) :
    let timer := (run earlier).timers.length
    let log := earlier ++ .schedule key :: later
    let set := earlier ++ [.schedule key]
    run (log ++ [.expire timer]) =
        { run log with
          queue :=
            if rounds key log = rounds key set then ((run log).queue.enqueue key).2
            else (run log).queue } ∧
      (.forget key ∉ later → (rounds key log = rounds key set ↔ .schedule key ∉ later)) ∧
      ∀ before after, later = before ++ .forget key :: after → .forget key ∉ after →
        (rounds key log = rounds key set ↔ after.count (.schedule key) = rounds key set) := by
  intro timer log set
  have hpositive : rounds key set ≠ 0 := by
    rw [rounds_concat_schedule, if_pos rfl]
    exact Nat.succ_ne_zero _
  have hlog : log = set ++ later := by
    rw [List.append_assoc]
    rfl
  refine ⟨?_, ?_, ?_⟩
  · have hcurrent : (run log).requeue.isCurrent key (rounds key set) = true ↔
        rounds key log = rounds key set := isCurrent_iff (counts_run log) hpositive
    have hexpire : (run log).requeue.expire key (rounds key set) (run log).queue =
        if rounds key log = rounds key set then ((run log).queue.enqueue key).2
        else (run log).queue := if_congr hcurrent rfl rfl
    rw [run_concat, ← hexpire]
    unfold perform
    dsimp only
    rw [timer_of_schedule]
  · intro hkept
    rw [hlog, rounds_append hkept, Nat.add_eq_left, List.count_eq_zero]
  · rintro before after rfl hkept
    rw [hlog, ← List.append_assoc, rounds_forgotten hkept]

/-- The general result where a schedule is superseded, and where it is forgotten and its key is then
scheduled twice. -/
theorem expiry_requests_stale :
    let key : InstallationKey := ⟨"ns", "demo"⟩
    (run [.schedule key, .schedule key, .expire 0]).queue.pending = [] ∧
      (run [.schedule key, .forget key, .schedule key, .schedule key, .expire 0]).queue.pending =
        [] := by
  intro key
  constructor
  · obtain ⟨hrun, hkept, -⟩ := expiry_requests [] [.schedule key] key
    have hstale := (hkept (by simp)).not.2 (not_not_intro (List.mem_singleton_self _))
    have hqueue := congrArg Timed.queue hrun
    dsimp only at hqueue
    rw [if_neg hstale] at hqueue
    exact congrArg Queue.pending hqueue
  · obtain ⟨hrun, -, hforgotten⟩ :=
      expiry_requests [] [.forget key, .schedule key, .schedule key] key
    have hstale := (hforgotten [] [.schedule key, .schedule key] rfl (by simp)).not.2 (by decide)
    have hqueue := congrArg Timed.queue hrun
    dsimp only at hqueue
    rw [if_neg hstale] at hqueue
    exact congrArg Queue.pending hqueue

/-- A timer that has been superseded or forgotten requests its key when a later schedule has come
to the same ticket. -/
theorem expiry_requests_forgotten :
    let key : InstallationKey := ⟨"ns", "demo"⟩
    (run [.schedule key, .forget key, .schedule key]).queue.pending = [] ∧
      (run [.schedule key, .forget key, .schedule key, .expire 0]).queue.pending = [key] := by
  decide

end Timed

end Requeue

end ShardOperator
