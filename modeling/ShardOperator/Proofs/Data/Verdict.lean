import ShardOperator.Error

namespace ShardOperator

/-- What a check comes to: a result just where its condition holds, and otherwise a validation error
about its subject. -/
inductive Verdict {α : Type} (subject : String) (sound : Prop) : Outcome α → Prop
  | accepted (h : sound) (value : α) : Verdict subject sound (.ok value)
  | refused (h : ¬sound) (problem : String) :
    Verdict subject sound (.error (.invalid subject problem))

namespace Verdict

variable {α : Type} {subject : String} {sound : Prop} {outcome : Outcome α}

theorem congr {other : Prop} (h : Verdict subject sound outcome) (hiff : sound ↔ other) :
    Verdict subject other outcome := by
  cases h with
  | accepted h value => exact .accepted (hiff.1 h) value
  | refused h problem => exact .refused (mt hiff.2 h) problem

/-- What comes after a check that has been passed is checked in its turn. -/
theorem bind {β : Type} {more : Prop} {next : α → Outcome β} (h : Verdict subject sound outcome)
    (hnext : ∀ value, Verdict subject more (next value)) :
    Verdict subject (sound ∧ more) (outcome.bind next) := by
  cases h with
  | refused h problem => exact .refused (fun hboth => h hboth.1) problem
  | accepted h value => exact (hnext value).congr (and_iff_right h).symm

theorem ok_iff (h : Verdict subject sound outcome) : (∃ value, outcome = .ok value) ↔ sound := by
  cases h with
  | accepted h value => exact iff_of_true ⟨value, rfl⟩ h
  | refused h problem => exact iff_of_false nofun h

theorem error_iff (h : Verdict subject sound outcome) :
    (∃ problem, outcome = .error (.invalid subject problem)) ↔ ¬sound := by
  cases h with
  | accepted h value => exact iff_of_false nofun (not_not_intro h)
  | refused h problem => exact iff_of_true ⟨problem, rfl⟩ h

end Verdict

end ShardOperator
