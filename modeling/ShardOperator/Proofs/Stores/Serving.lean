import ShardOperator.Proofs.Program.Path
import ShardOperator.Proofs.Stores.Effects

namespace ShardOperator

/-- The object has every label of the selector. -/
def Resource.Carries {kind : Kind} (object : Resource kind) (selector : Labels) : Prop :=
  ∀ key value, selector.find? key = some value →
    (object.metadata.labels.getD .empty).find? key = some value

namespace Simulation.Stores

/-- The objects are those of the namespace that carry the selector's labels, in any order. -/
def Lists (s : Stores) (kind : Kind) (ns : String) (selector : Labels)
    (objects : List (Resource kind)) : Prop :=
  ∀ object, object ∈ objects ↔
    (∃ name, s.find? kind ns name = some object) ∧ object.Carries selector

/-- A call that is made takes effect. Statuses, events and host requests have any outcome; the
stored objects do not depend on them. -/
def Grants (s : Stores) : (request : Request) → request.Reply → Stores → Prop
  | .get kind ns name, reply, after => reply = s.get kind ns name ∧ after = s
  | .create object, reply, after => (reply, after) = s.create object
  | .update object, reply, after => (reply, after) = s.update object
  | .delete kind ns name, reply, after => (reply, after) = s.delete kind ns name
  | .list kind ns selector, reply, after =>
    (∃ objects, reply = .ok objects ∧ s.Lists kind ns selector objects) ∧ after = s
  | .writeStatus .., _, after | .publish .., _, after | .dropDnsCache _, _, after
  | .forgetHost _, _, after => after = s

/-- A call that fails changes nothing. -/
def Refuses (s : Stores) (request : Request) (reply : request.Reply) (after : Stores) : Prop :=
  after = s ∧ ∃ e, reply = request.refuse e

/-- Any call may fail, for any reason; one that does not takes effect. -/
def Serves (s : Stores) (request : Request) (reply : request.Reply) (after : Stores) : Prop :=
  s.Grants request reply after ∨ s.Refuses request reply after

/-- A call that succeeds has taken effect, and one that fails has changed nothing. Which calls
succeed is left open. -/
def Takes (s : Stores) : (request : Request) → request.Reply → Stores → Prop
  | .get kind ns name, .ok object, after => s.find? kind ns name = some object ∧ after = s
  | .create object, .ok _, after | .update object, .ok _, after => after = s.put object
  | .delete kind ns name, .ok _, after => after = s.erase kind ns name
  | .list kind ns selector, .ok objects, after => s.Lists kind ns selector objects ∧ after = s
  | _, _, after => after = s

/-- A deletion that fails for want of its object tells the truth. -/
def Truthful (s : Stores) : (request : Request) → request.Reply → Prop
  | .delete kind ns name, .error e => e.isNotFound = true → s.find? kind ns name = none
  | _, _ => True

def ServesTruly (s : Stores) (request : Request) (reply : request.Reply) (after : Stores) : Prop :=
  s.Serves request reply after ∧ s.Truthful request reply

/-- The deletion of a workload is not made, and the answer is that there is no such workload. Every
other call takes effect. -/
def Pretends (s : Stores) : (request : Request) → request.Reply → Stores → Prop
  | .delete .statefulSet ns name, reply, after =>
    reply = .error (missing .statefulSet ns name) ∧ after = s
  | request, reply, after => s.Grants request reply after

variable {s after : Stores} {request : Request} {reply : request.Reply}

theorem exists_lists (s : Stores) (kind : Kind) (ns : String) (selector : Labels) :
    ∃ objects, s.Lists kind ns selector objects := by
  classical
  refine ⟨((s.store kind).shelf ns).values.filter fun object => decide (object.Carries selector),
    fun object => ?_⟩
  rw [List.mem_filter, SortedMap.mem_values, decide_eq_true_iff]
  rfl

theorem exists_grants (s : Stores) (request : Request) :
    ∃ reply after, s.Grants request reply after := by
  cases request with
  | get kind ns name => exact ⟨_, s, rfl, rfl⟩
  | create object => exact ⟨_, _, rfl⟩
  | update object => exact ⟨_, _, rfl⟩
  | delete kind ns name => exact ⟨_, _, rfl⟩
  | list kind ns selector =>
    obtain ⟨objects, h⟩ := s.exists_lists kind ns selector
    exact ⟨.ok objects, s, ⟨objects, rfl, h⟩, rfl⟩
  | writeStatus ns name status => exact ⟨.ok (), s, rfl⟩
  | publish regarding event => exact ⟨(), s, rfl⟩
  | dropDnsCache hostname => exact ⟨.ok (), s, rfl⟩
  | forgetHost hostname => exact ⟨(), s, rfl⟩

theorem Grants.takes (h : s.Grants request reply after) : s.Takes request reply after := by
  cases request with
  | get kind ns name =>
    obtain ⟨rfl, rfl⟩ := h
    rcases after.get_cases kind ns name with ⟨object, hfind, hget⟩ | ⟨-, hget⟩
    · rw [hget]
      exact ⟨hfind, rfl⟩
    · rw [hget]
      rfl
  | create object =>
    rcases s.create_cases object with ⟨hc, -⟩ | ⟨e, hc⟩
    · obtain ⟨rfl, rfl⟩ := Prod.mk.inj (Eq.trans h hc)
      rfl
    · obtain ⟨rfl, rfl⟩ := Prod.mk.inj (Eq.trans h hc)
      rfl
  | update object =>
    rcases s.update_cases object with hc | ⟨e, hc⟩
    · obtain ⟨rfl, rfl⟩ := Prod.mk.inj (Eq.trans h hc)
      rfl
    · obtain ⟨rfl, rfl⟩ := Prod.mk.inj (Eq.trans h hc)
      rfl
  | delete kind ns name =>
    rcases s.delete_cases kind ns name with hc | ⟨hc, -⟩
    · obtain ⟨rfl, rfl⟩ := Prod.mk.inj (Eq.trans h hc)
      rfl
    · obtain ⟨rfl, rfl⟩ := Prod.mk.inj (Eq.trans h hc)
      rfl
  | list kind ns selector =>
    obtain ⟨⟨objects, rfl, hlists⟩, rfl⟩ := h
    exact ⟨hlists, rfl⟩
  | writeStatus | publish | dropDnsCache | forgetHost => exact h

theorem Serves.takes (h : s.Serves request reply after) : s.Takes request reply after := by
  rcases h with h | ⟨rfl, e, rfl⟩
  · exact h.takes
  · cases request <;> rfl

/-- What a call can do to the stores: nothing, or it puts or erases one object. -/
theorem Takes.effect (h : s.Takes request reply after) :
    after = s ∨
      (∃ kind, ∃ object : Resource kind,
        (request = .create object ∨ request = .update object) ∧ after = s.put object) ∨
      ∃ kind ns name, request = .delete kind ns name ∧ after = s.erase kind ns name := by
  cases request with
  | get | list =>
    cases reply with
    | ok _ => exact .inl h.2
    | error e => exact .inl h
  | writeStatus | publish | dropDnsCache | forgetHost => exact .inl h
  | create object =>
    cases reply with
    | ok _ => exact .inr (.inl ⟨_, object, .inl rfl, h⟩)
    | error e => exact .inl h
  | update object =>
    cases reply with
    | ok _ => exact .inr (.inl ⟨_, object, .inr rfl, h⟩)
    | error e => exact .inl h
  | delete kind ns name =>
    cases reply with
    | ok _ => exact .inr (.inr ⟨kind, ns, name, rfl, h⟩)
    | error e => exact .inl h

/-- A request changes at most the object that it writes or deletes. -/
theorem Takes.find?_of_ne (h : s.Takes request reply after) {kind : Kind} {ns name : String}
    (hne : request.target? ≠ some (kind, ns, name)) :
    after.find? kind ns name = s.find? kind ns name := by
  rcases h.effect with hafter | ⟨kind', object, hwrite, hafter⟩ | ⟨kind', ns', name', rfl, hafter⟩
  · rw [hafter]
  · have htarget : request.target? = some (kind', object.ns, object.name) := by
      rcases hwrite with rfl | rfl <;> rfl
    rw [hafter]
    exact s.find?_put_of_ne object fun e => hne (htarget.trans (congrArg some e))
  · rw [hafter]
    exact s.find?_erase_of_ne fun e => hne (congrArg some e)

/-- A request that neither writes nor deletes leaves the stores as they are. -/
theorem Takes.eq_of_target?_eq_none (h : s.Takes request reply after)
    (htarget : request.target? = none) : after = s := by
  rcases h.effect with hafter | ⟨kind, object, rfl | rfl, -⟩ | ⟨kind, ns, name, rfl, -⟩
  · exact hafter
  · cases htarget
  · cases htarget
  · cases htarget

theorem Grants.eq_of_target?_eq_none (h : s.Grants request reply after)
    (htarget : request.target? = none) : after = s :=
  h.takes.eq_of_target?_eq_none htarget

theorem Grants.servesTruly (h : s.Grants request reply after) :
    s.ServesTruly request reply after := by
  refine ⟨.inl h, ?_⟩
  cases request with
  | delete kind ns name =>
    cases reply with
    | ok _ => trivial
    | error e =>
      intro _
      rcases s.delete_cases kind ns name with hc | ⟨-, hnone⟩
      · cases congrArg Prod.fst (h.trans hc)
      · exact hnone
  | get | create | update | list | writeStatus | publish | dropDnsCache | forgetHost => trivial

theorem Pretends.grants (h : s.Pretends request reply after)
    (hne : ∀ ns name, request ≠ .delete .statefulSet ns name) : s.Grants request reply after := by
  cases request with
  | delete kind ns name =>
    cases kind with
    | statefulSet => exact absurd rfl (hne ns name)
    | service | configMap | disruptionBudget => exact h
  | get | create | update | list | writeStatus | publish | dropDnsCache | forgetHost => exact h

theorem Pretends.serves (h : s.Pretends request reply after) : s.Serves request reply after := by
  by_cases hworkload : ∃ ns name, request = .delete .statefulSet ns name
  · obtain ⟨ns, name, rfl⟩ := hworkload
    obtain ⟨rfl, rfl⟩ := h
    exact .inr ⟨rfl, _, rfl⟩
  · exact .inl (h.grants fun ns name e => hworkload ⟨ns, name, e⟩)

theorem exists_pretends (s : Stores) (request : Request) :
    ∃ reply after, s.Pretends request reply after := by
  cases request with
  | delete kind ns name =>
    cases kind with
    | statefulSet => exact ⟨_, s, rfl, rfl⟩
    | service | configMap | disruptionBudget => exact s.exists_grants _
  | get | create | update | list | writeStatus | publish | dropDnsCache | forgetHost =>
    exact s.exists_grants _

theorem Serves.find?_of_ne (h : s.Serves request reply after) {kind : Kind} {ns name : String}
    (hne : request.target? ≠ some (kind, ns, name)) :
    after.find? kind ns name = s.find? kind ns name :=
  h.takes.find?_of_ne hne

/-- Where deletions of workloads are not made, no workload is lost. -/
theorem Pretends.isSome_find? (h : s.Pretends request reply after) {ns name : String}
    (hfound : (s.find? .statefulSet ns name).isSome = true) :
    (after.find? .statefulSet ns name).isSome = true := by
  by_cases hworkload : ∃ ns name, request = .delete .statefulSet ns name
  · obtain ⟨ns', name', rfl⟩ := hworkload
    rw [h.2]
    exact hfound
  · have hgrants := h.grants fun ns name e => hworkload ⟨ns, name, e⟩
    rcases hgrants.takes.effect with
      hafter | ⟨kind, object, -, hafter⟩ | ⟨kind, ns', name', rfl, hafter⟩
    · rw [hafter]
      exact hfound
    · by_cases hkey : kind = .statefulSet ∧ object.ns = ns ∧ object.name = name
      · obtain ⟨rfl, rfl, rfl⟩ := hkey
        rw [hafter, s.find?_put_self]
        rfl
      · rw [hafter, s.find?_put_of_ne object fun e => hkey (by simpa using e)]
        exact hfound
    · rw [hafter, s.find?_erase_of_ne]
      · exact hfound
      · intro e
        injection e with hkind _
        exact hworkload ⟨ns', name', by rw [hkind]⟩

end Simulation.Stores

end ShardOperator
