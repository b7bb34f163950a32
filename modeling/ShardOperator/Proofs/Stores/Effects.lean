import ShardOperator.Proofs.Data.Lookup
import ShardOperator.Simulation.Stores

namespace ShardOperator

/-- The object as the `n`th write of its kind stores it. -/
def Resource.numbered {kind : Kind} (object : Resource kind) (n : Nat) : Resource kind :=
  { object with metadata := { object.metadata with resourceVersion := some (toString n) } }

/-- The object that a request writes or deletes, by kind, namespace and name. -/
def Request.target? : Request → Option (Kind × String × String)
  | @create kind object | @update kind object => some (kind, object.ns, object.name)
  | .delete kind ns name => some (kind, ns, name)
  | .get .. | .list .. | .writeStatus .. | .publish .. | .dropDnsCache _ | .forgetHost _ => none

namespace Simulation

namespace ObjectStore

variable {kind : Kind}

theorem find?_put (s : ObjectStore kind) (object : Resource kind) (ns name : String) :
    (s.put object).find? ns name =
      if object.ns = ns ∧ object.name = name then some (object.numbered (s.writes + 1))
      else s.find? ns name := by
  simp only [find?, shelf, put, SortedMap.find?_insert]
  by_cases hns : object.ns = ns
  · subst hns
    by_cases hname : object.name = name <;> simp [hname, SortedMap.find?_insert, Resource.numbered]
  · simp [hns]

theorem find?_erase (s : ObjectStore kind) (ns name ns' name' : String) :
    (s.erase ns name).find? ns' name' =
      if ns = ns' ∧ name = name' then none else s.find? ns' name' := by
  simp only [find?, shelf, erase, SortedMap.find?_insert]
  by_cases hns : ns = ns'
  · subst hns
    by_cases hname : name = name' <;> simp [hname, SortedMap.find?_erase]
  · simp [hns]

end ObjectStore

namespace Stores

variable {kind kind' : Kind}

theorem store_setStore_self (s : Stores) (store : ObjectStore kind) :
    (s.setStore kind store).store kind = store := by
  cases kind <;> rfl

theorem store_setStore_of_ne (s : Stores) (store : ObjectStore kind) (h : kind ≠ kind') :
    (s.setStore kind store).store kind' = s.store kind' := by
  cases kind <;> cases kind' <;> first | rfl | exact absurd rfl h

theorem find?_put_self (s : Stores) (object : Resource kind) :
    (s.put object).find? kind object.ns object.name =
      some (object.numbered ((s.store kind).writes + 1)) := by
  rw [find?, put, store_setStore_self, ObjectStore.find?_put, if_pos ⟨rfl, rfl⟩]

theorem find?_put_of_ne (s : Stores) (object : Resource kind) {ns name : String}
    (h : (kind, object.ns, object.name) ≠ (kind', ns, name)) :
    (s.put object).find? kind' ns name = s.find? kind' ns name := by
  by_cases hk : kind = kind'
  · subst hk
    rw [find?, put, store_setStore_self, ObjectStore.find?_put, if_neg]
    · rfl
    · rintro ⟨rfl, rfl⟩
      exact h rfl
  · rw [find?, put, store_setStore_of_ne _ _ hk]
    rfl

theorem find?_erase_self (s : Stores) (kind : Kind) (ns name : String) :
    (s.erase kind ns name).find? kind ns name = none := by
  rw [find?, erase, store_setStore_self, ObjectStore.find?_erase, if_pos ⟨rfl, rfl⟩]

theorem find?_erase_of_ne (s : Stores) {ns name ns' name' : String}
    (h : (kind, ns, name) ≠ (kind', ns', name')) :
    (s.erase kind ns name).find? kind' ns' name' = s.find? kind' ns' name' := by
  by_cases hk : kind = kind'
  · subst hk
    rw [find?, erase, store_setStore_self, ObjectStore.find?_erase, if_neg]
    · rfl
    · rintro ⟨rfl, rfl⟩
      exact h rfl
  · rw [find?, erase, store_setStore_of_ne _ _ hk]
    rfl

theorem create_cases (s : Stores) (object : Resource kind) :
    (s.create object = (.ok (), s.put object) ∧ s.find? kind object.ns object.name = none) ∨
      ∃ e, s.create object = (.error e, s) := by
  unfold create
  split
  · exact .inr ⟨_, rfl⟩
  · next h => exact .inl ⟨rfl, h⟩

theorem update_cases (s : Stores) (object : Resource kind) :
    s.update object = (.ok (), s.put object) ∨ ∃ e, s.update object = (.error e, s) := by
  unfold update
  split
  · exact .inr ⟨_, rfl⟩
  · split
    · exact .inl rfl
    · exact .inr ⟨_, rfl⟩

theorem delete_cases (s : Stores) (kind : Kind) (ns name : String) :
    s.delete kind ns name = (.ok (), s.erase kind ns name) ∨
      (s.delete kind ns name = (.error (missing kind ns name), s) ∧
        s.find? kind ns name = none) := by
  unfold delete
  split
  · next h => exact .inr ⟨rfl, h⟩
  · exact .inl rfl

theorem get_cases (s : Stores) (kind : Kind) (ns name : String) :
    (∃ object, s.find? kind ns name = some object ∧ s.get kind ns name = .ok object) ∨
      (s.find? kind ns name = none ∧ s.get kind ns name = .error (missing kind ns name)) := by
  unfold get
  split
  · next h => exact .inr ⟨h, rfl⟩
  · next object h => exact .inl ⟨object, h, rfl⟩

end Stores

end Simulation

end ShardOperator
