import ShardOperator.Proofs.Reconcile.Courses
import ShardOperator.Proofs.Reconcile.Requests

namespace ShardOperator

open Program Simulation

/-- A program that never writes or deletes an object leaves it as it is. -/
theorem Program.Runs.find?_eq {α : Type} {program : Program α} {s last : Stores} {value : α}
    {kind : Kind} {ns name : String} (run : Runs Stores.Serves program s value last)
    (only : Only (fun request => request.target? ≠ some (kind, ns, name)) program) :
    last.find? kind ns name = s.find? kind ns name :=
  run.invariant (fun t => t.find? kind ns name = s.find? kind ns name)
    (fun hne served h => (served.find?_of_ne hne).trans h) only rfl

namespace Reconcile

variable {kind : Kind} {regarding : Regarding} {desired : Resource kind} {s last : Stores}
  {outcome : Outcome ObjectOutcome}

theorem runs_publish {event : Event} {value : Unit}
    (run : Runs Stores.Serves (publish regarding event) s value last) : last = s := by
  rcases runs_call.1 run with h | ⟨h, -⟩
  · exact h
  · exact h

/-- An attempt that succeeds has left an object of the desired version in its place. -/
theorem stands_reconcileObject (hversion : desired.version?.isSome)
    (run : Runs Stores.Serves (reconcileObject regarding desired) s outcome last)
    (hok : outcome.isOk = true) : Stands desired last := by
  obtain ⟨log, hsaid, served⟩ := runs_iff_dialogue.1 (run.mono Stores.Serves.takes)
  exact (course_of_dialogue hsaid).stands served hversion hok

/-- A deletion that succeeds has left nothing in the place. -/
theorem find?_deleteObject {ns name : String} {outcome : Outcome Unit}
    (run : Runs Stores.ServesTruly (deleteObject regarding kind ns name) s outcome last)
    (hok : outcome.isOk = true) : last.find? kind ns name = none := by
  obtain ⟨reply, mid, hcall, run⟩ := runs_bind.1 run
  obtain ⟨hserved, htrue⟩ := runs_call.1 hcall
  cases reply with
  | ok _ =>
    obtain ⟨_, after, hpublish, run⟩ := runs_bind.1 run
    obtain ⟨-, rfl⟩ := runs_pure.1 run
    rw [runs_publish (hpublish.mono And.left)]
    rcases hserved with h | ⟨-, e, h⟩
    · rcases s.delete_cases kind ns name with hc | ⟨hc, -⟩
      · rw [show mid = s.erase kind ns name from congrArg Prod.snd (h.trans hc)]
        exact s.find?_erase_self kind ns name
      · cases congrArg Prod.fst (h.trans hc)
    · cases h
  | error e =>
    change Runs _ (if e.isNotFound then _ else _) _ _ _ at run
    split at run
    · next hmissing =>
      obtain ⟨-, rfl⟩ := runs_pure.1 run
      have hnone : s.find? kind ns name = none := htrue hmissing
      rcases hserved with h | ⟨rfl, -⟩
      · rcases s.delete_cases kind ns name with hc | ⟨hc, -⟩
        · cases congrArg Prod.fst (h.trans hc)
        · rw [show last = s from congrArg Prod.snd (h.trans hc)]
          exact hnone
      · exact hnone
    · obtain ⟨_, _, -, run⟩ := runs_bind.1 run
      obtain ⟨rfl, -⟩ := runs_pure.1 run
      cases hok

theorem target?_of_migrate {current migrated : Resource kind}
    (hm : current.migrate desired = .ok migrated) :
    (Request.update migrated).target? = some (kind, desired.ns, desired.name) := by
  change some (kind, migrated.ns, migrated.name) = _
  rw [Resource.ns_migrate hm, Resource.name_migrate hm]

/-- An attempt leaves every other object as it is. -/
theorem find?_reconcileObject {other : Kind} {ns name : String}
    (run : Runs Stores.Serves (reconcileObject regarding desired) s outcome last)
    (hne : (kind, desired.ns, desired.name) ≠ (other, ns, name)) :
    last.find? other ns name = s.find? other ns name := by
  have htarget {request : Request}
      (h : request.target? = some (kind, desired.ns, desired.name)) :
      request.target? ≠ some (other, ns, name) := by
    rw [h]
    exact fun e => hne (Option.some.inj e)
  have hnone {request : Request} (h : request.target? = none) :
      request.target? ≠ some (other, ns, name) := by
    rw [h]
    exact fun e => nomatch e
  exact run.find?_eq <| only_reconcileObject (hnone rfl) (htarget rfl)
    (fun hm => htarget (target?_of_migrate hm)) (htarget rfl) fun _ _ => hnone rfl

theorem find?_deleteObject_of_ne {ns name : String} {outcome : Outcome Unit} {other : Kind}
    {ns' name' : String}
    (run : Runs Stores.Serves (deleteObject regarding kind ns name) s outcome last)
    (hne : (kind, ns, name) ≠ (other, ns', name')) :
    last.find? other ns' name' = s.find? other ns' name' := by
  refine run.find?_eq <| only_deleteObject (fun e => hne (Option.some.inj e)) fun _ _ => ?_
  exact fun e => nomatch e

end Reconcile

end ShardOperator
