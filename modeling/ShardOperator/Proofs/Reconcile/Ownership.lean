import ShardOperator.Proofs.Reconcile.Requests

namespace ShardOperator

open Simulation

/-- An object that was not there before has been written by the request. -/
theorem Simulation.Stores.Serves.find?_cases {P : {kind : Kind} → Resource kind → Prop}
    {s after : Stores} {request : Request} {reply : request.Reply} {kind : Kind} {ns name : String}
    {object : Resource kind} (served : s.Serves request reply after) (writes : request.Writes P)
    (h : after.find? kind ns name = some object) :
    s.find? kind ns name = some object ∨
      ∃ (written : Resource kind) (n : Nat), P written ∧ written.ns = ns ∧ written.name = name ∧
        object = written.numbered n := by
  rcases served with hgrants | ⟨rfl, -⟩
  · rcases hgrants.takes.effect with
      rfl | ⟨kind', written, hwrite, rfl⟩ | ⟨kind', ns', name', -, rfl⟩
    · exact .inl h
    · by_cases hkey : kind' = kind ∧ written.ns = ns ∧ written.name = name
      · obtain ⟨rfl, rfl, rfl⟩ := hkey
        have hwrites : P written := by
          rcases hwrite with rfl | rfl
          · exact writes
          · exact writes
        rw [s.find?_put_self] at h
        exact .inr ⟨written, _, hwrites, rfl, rfl, (Option.some.inj h).symm⟩
      · rw [s.find?_put_of_ne written fun e => hkey (by simpa using e)] at h
        exact .inl h
    · by_cases hkey : kind' = kind ∧ ns' = ns ∧ name' = name
      · obtain ⟨rfl, rfl, rfl⟩ := hkey
        rw [s.find?_erase_self] at h
        cases h
      · rw [s.find?_erase_of_ne fun e => hkey (by simpa using e)] at h
        exact .inl h
  · exact .inl h

/-- Whatever has the labels of the installation is an object as the operator writes it. -/
def Identity.Tidy (id : Identity) (s : Stores) : Prop :=
  ∀ kind name (object : Resource kind), s.find? kind id.ns name = some object →
    object.Carries id.selector → Belongs id object ∧ object.name = name

/-- Every object is one that was there at the start, or as the operator writes it. -/
def Identity.Accounts (id : Identity) (start s : Stores) : Prop :=
  ∀ kind name (object : Resource kind), s.find? kind id.ns name = some object →
    start.find? kind id.ns name = some object ∨ (Belongs id object ∧ object.name = name)

/-- There is no object of the installation. -/
def Identity.Unmarked (id : Identity) (s : Stores) : Prop :=
  ∀ kind name (object : Resource kind), s.find? kind id.ns name = some object →
    ¬ object.Carries id.selector

theorem Identity.Accounts.served {id : Identity} {start s after : Stores} {request : Request}
    {reply : request.Reply} (accounts : id.Accounts start s)
    (writes : request.Writes fun object => Belongs id object)
    (served : s.Serves request reply after) : id.Accounts start after := by
  intro kind name object h
  rcases served.find?_cases writes h with h | ⟨written, n, hbelongs, -, rfl, rfl⟩
  · exact accounts kind name object h
  · exact .inr ⟨hbelongs.numbered n, rfl⟩

theorem Identity.Accounts.tidy {id : Identity} {start s : Stores} (accounts : id.Accounts start s)
    (unmarked : id.Unmarked start) : id.Tidy s := by
  intro kind name object h hcarries
  rcases accounts kind name object h with hstart | hbelongs
  · exact absurd hcarries (unmarked kind name object hstart)
  · exact hbelongs

namespace Blueprint

variable {b : Blueprint} {s after : Stores} {request : Request} {reply : request.Reply}

theorem Owns.writes (owns : b.Owns request) :
    request.Writes fun object => Belongs b.installation.identity object := by
  cases request with
  | create object | update object => exact owns.1
  | get | delete | list | writeStatus | publish | dropDnsCache | forgetHost => trivial

theorem Owns.find?_cases (owns : b.Owns request) (served : s.Serves request reply after)
    {kind : Kind} {name : String} {object : Resource kind}
    (h : after.find? kind b.installation.ns name = some object) :
    s.find? kind b.installation.ns name = some object ∨
      (Belongs b.installation.identity object ∧ object.name = name ∧
        name ∈ b.installation.objectNames kind) := by
  rcases served.find?_cases owns h with h | ⟨written, n, ⟨hbelongs, hmem⟩, -, rfl, rfl⟩
  · exact .inl h
  · exact .inr ⟨hbelongs.numbered n, rfl, hmem⟩

theorem Owns.tidy (owns : b.Owns request) (served : s.Serves request reply after)
    (tidy : b.installation.identity.Tidy s) : b.installation.identity.Tidy after := by
  intro kind name object h hcarries
  rcases owns.find?_cases served h with h | ⟨hbelongs, hname, -⟩
  · exact tidy kind name object h hcarries
  · exact ⟨hbelongs, hname⟩

/-- At a name that is not wanted, nothing comes to be. -/
theorem Owns.find?_of_notMem (owns : b.Owns request) (served : s.Serves request reply after)
    {kind : Kind} {name : String} (hname : name ∉ b.installation.objectNames kind)
    {object : Resource kind} (h : after.find? kind b.installation.ns name = some object) :
    s.find? kind b.installation.ns name = some object := by
  rcases owns.find?_cases served h with h | ⟨-, -, hmem⟩
  · exact h
  · exact absurd hmem hname

end Blueprint

end ShardOperator
