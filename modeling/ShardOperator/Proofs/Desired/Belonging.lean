import ShardOperator.Proofs.Desired.ObjectNames
import ShardOperator.Proofs.Desired.Versions
import ShardOperator.Proofs.Stores.Serving
import ShardOperator.Reconcile.Migration
import ShardOperator.Reconcile.Pass

namespace ShardOperator

/-- What stays the same of an installation when its specification changes. -/
structure Identity where
  ns : String
  name : String
  uid : Option String

namespace Identity

/-- The labels by which the objects of the installation are listed. -/
def selector (id : Identity) : Labels := Labels.ofInstallation id.name

/-- The resource declares the installation of this identity. -/
structure Declares (id : Identity) (chi : InstallationResource) : Prop where
  ns : chi.metadata.ns = some id.ns
  name : chi.anyName = id.name
  uid : chi.metadata.uid = id.uid

end Identity

def Installation.identity (i : Installation) : Identity := ⟨i.ns, i.name, i.uid⟩

/-- An object of the installation, as the operator writes it: the labels and the owner tell of the
installation, and the labels of a workload tell its name. -/
structure Belongs (id : Identity) {kind : Kind} (object : Resource kind) : Prop where
  ns : object.ns = id.ns
  anyName : object.anyName = object.name
  carries : object.Carries id.selector
  owned : ∀ uid, id.uid = some uid →
    (object.metadata.ownerReferences.getD []).any (·.uid == uid) = true
  address : kind = .statefulSet →
    ∃ a, HostAddress.ofLabels? (object.metadata.labels.getD .empty) id.ns = some a ∧
      a.workloadName = object.name

namespace Labels

theorem find?_ofInstallation (name key : String) :
    (ofInstallation name).find? key =
      if installation = key then some name else if app = key then some appValue else none := by
  change ((SortedMap.empty.insert app appValue).insert installation name).find? key = _
  rw [SortedMap.find?_insert, SortedMap.find?_insert, SortedMap.find?_empty]

/-- The labels tell that an object is the operator's, and of which installation. -/
def Mark (labels : Labels) (name : String) : Prop :=
  labels.find? app = some appValue ∧ labels.find? installation = some name

theorem mark_ofInstallation (name : String) : (ofInstallation name).Mark name := by
  refine ⟨?_, ?_⟩
  · rw [find?_ofInstallation]
    rfl
  · rw [find?_ofInstallation, if_pos rfl]

theorem Mark.insert {labels : Labels} {name key : String} (h : labels.Mark name) (value : String)
    (happ : key ≠ app) (hinst : key ≠ installation) :
    Mark (SortedMap.insert labels key value) name := by
  refine ⟨?_, ?_⟩
  · rw [SortedMap.find?_insert, if_neg happ]
    exact h.1
  · rw [SortedMap.find?_insert, if_neg hinst]
    exact h.2

/-- Labels are selected that have every entry of the selector. -/
def Selects (selector labels : Labels) : Prop :=
  ∀ key value, selector.find? key = some value → labels.find? key = some value

theorem selects_ofInstallation {labels : Labels} {name : String} :
    (ofInstallation name).Selects labels ↔ labels.Mark name := by
  constructor
  · intro h
    exact ⟨h app appValue (mark_ofInstallation name).1,
      h installation name (mark_ofInstallation name).2⟩
  · rintro ⟨happ, hinst⟩ key value hkey
    rw [find?_ofInstallation] at hkey
    split at hkey
    · next h => rw [← h, hinst, hkey]
    · split at hkey
      · next h => rw [← h, happ, hkey]
      · cases hkey

theorem carries_iff {kind : Kind} {object : Resource kind} {name : String} :
    object.Carries (ofInstallation name) ↔ Mark (object.metadata.labels.getD .empty) name :=
  selects_ofInstallation

theorem find?_keepExisting (required : Labels) (existing : Option Labels) (key : String) :
    (required.keepExisting existing).find? key =
      ((existing.getD .empty).find? key).or (required.find? key) :=
  SortedMap.find?_override _ _ _

end Labels

theorem find?_mergeEntries (current desired : Option (SortedMap String)) (key : String) :
    ((mergeEntries current desired).getD .empty).find? key =
      ((desired.getD .empty).find? key).or ((current.getD .empty).find? key) := by
  cases current with
  | none => simp [mergeEntries]
  | some current => exact SortedMap.find?_override _ _ _

namespace HostAddress

theorem ofLabels?_eq_some {labels : Labels} {ns : String} {a : HostAddress} :
    ofLabels? labels ns = some a ↔
      ∃ shard replica installation cluster,
        labels.find? Labels.shard = some shard ∧ labels.find? Labels.replica = some replica ∧
        labels.find? Labels.installation = some installation ∧
        labels.find? Labels.cluster = some cluster ∧
        a = { ns, installation, cluster, shard, replica, host := shard ++ "-" ++ replica } := by
  unfold ofLabels?
  cases labels.find? Labels.shard <;> cases labels.find? Labels.replica <;>
    cases labels.find? Labels.installation <;> cases labels.find? Labels.cluster <;>
    simp [eq_comm]

end HostAddress

namespace Resource

variable {kind : Kind} {current desired migrated : Resource kind}

/-- Every kind is migrated by its metadata, and by more only in its body. -/
theorem metadata_of_migrate (h : current.migrate desired = .ok migrated) :
    migrated.metadata = current.metadata.migrate desired.metadata := by
  cases kind with
  | service =>
    simp only [migrate, migrateService] at h
    split at h
    · cases h
    · obtain rfl := Except.ok.inj h
      rfl
  | configMap | statefulSet | disruptionBudget =>
    obtain rfl := Except.ok.inj h
    rfl

theorem name_migrate (h : current.migrate desired = .ok migrated) :
    migrated.name = desired.name := by
  unfold name
  rw [metadata_of_migrate h]
  rfl

theorem ns_migrate (h : current.migrate desired = .ok migrated) : migrated.ns = desired.ns := by
  unfold ns
  rw [metadata_of_migrate h]
  rfl

/-- An annotation that is desired hides the current one. -/
theorem annotation?_of_migrate
    (h : migrated.metadata = current.metadata.migrate desired.metadata) (key : String) :
    migrated.annotation? key = (desired.annotation? key).or (current.annotation? key) := by
  rw [annotation?_eq, annotation?_eq, annotation?_eq, h]
  exact find?_mergeEntries ..

theorem version?_of_migrate
    (h : migrated.metadata = current.metadata.migrate desired.metadata) :
    migrated.version? = desired.version?.or current.version? :=
  annotation?_of_migrate h versionAnnotation

/-- A version that the desired object has is the one of the migrated object. -/
theorem version?_migrate (h : current.migrate desired = .ok migrated)
    (hv : desired.version?.isSome) : migrated.version? = desired.version? := by
  rw [version?_of_migrate (metadata_of_migrate h), Option.or_of_isSome hv]

end Resource

namespace Belongs

variable {id : Identity} {kind : Kind} {object current desired migrated : Resource kind}

theorem numbered (h : Belongs id object) (n : Nat) : Belongs id (object.numbered n) where
  ns := h.ns
  anyName := h.anyName
  carries := h.carries
  owned := h.owned
  address := h.address

/-- Whatever the current object looks like, what replaces it belongs to the installation. -/
theorem migrate (h : Belongs id desired) (hm : current.migrate desired = .ok migrated) :
    Belongs id migrated := by
  have hmeta := Resource.metadata_of_migrate hm
  have hname : migrated.name = desired.name := Resource.name_migrate hm
  have hlabel {key value : String}
      (hkey : (desired.metadata.labels.getD .empty).find? key = some value) :
      (migrated.metadata.labels.getD .empty).find? key = some value := by
    rw [hmeta]
    change ((mergeEntries _ _).getD .empty).find? key = _
    rw [find?_mergeEntries, hkey]
    rfl
  constructor
  · exact (Resource.ns_migrate hm).trans h.ns
  · rw [hname, ← h.anyName]
    unfold Resource.anyName
    rw [hmeta]
    rfl
  · exact fun key value hkey => hlabel (h.carries key value hkey)
  · rw [hmeta]
    exact h.owned
  · intro hk
    obtain ⟨a, ha, hwork⟩ := h.address hk
    obtain ⟨shard, replica, inst, cluster, hs, hr, hi, hc, rfl⟩ :=
      HostAddress.ofLabels?_eq_some.1 ha
    exact ⟨_, HostAddress.ofLabels?_eq_some.2
      ⟨shard, replica, inst, cluster, hlabel hs, hlabel hr, hlabel hi, hlabel hc, rfl⟩,
      hwork.trans hname.symm⟩

end Belongs

end ShardOperator
