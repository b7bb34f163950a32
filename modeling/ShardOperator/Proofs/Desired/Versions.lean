import ShardOperator.Desired.Version
import ShardOperator.Proofs.Data.Lookup

namespace ShardOperator

def ObjectMeta.annotated (m : ObjectMeta) (annotations : Option (SortedMap String)) : ObjectMeta :=
  { m with annotations }

/-- The metadata but for the annotations. -/
def ObjectMeta.unannotated (m : ObjectMeta) : ObjectMeta := m.annotated none

namespace Resource

variable {kind : Kind} {a b : Resource kind}

def annotation? (object : Resource kind) (key : String) : Option String :=
  object.metadata.annotations.bind (·.find? key)

/-- The annotations without a version, which may be none. -/
def otherAnnotations (object : Resource kind) : SortedMap String :=
  (object.metadata.annotations.getD .empty).erase versionAnnotation

/-- Objects that differ at most in their versions, and in whether there is a map of annotations when
it holds nothing else. -/
structure SaysSame (a b : Resource kind) : Prop where
  body : a.body = b.body
  metadata : a.metadata.unannotated = b.metadata.unannotated
  annotations : ∀ key, key ≠ versionAnnotation → a.annotation? key = b.annotation? key

theorem SaysSame.symm (h : SaysSame a b) : SaysSame b a :=
  ⟨h.body.symm, h.metadata.symm, fun key hkey => (h.annotations key hkey).symm⟩

theorem SaysSame.trans {c : Resource kind} (h : SaysSame a b) (h' : SaysSame b c) : SaysSame a c :=
  ⟨h.body.trans h'.body, h.metadata.trans h'.metadata,
    fun key hkey => (h.annotations key hkey).trans (h'.annotations key hkey)⟩

theorem annotation?_eq (object : Resource kind) (key : String) :
    object.annotation? key = (object.metadata.annotations.getD .empty).find? key := by
  unfold annotation?
  cases object.metadata.annotations <;> rfl

theorem find?_otherAnnotations (object : Resource kind) (key : String) :
    object.otherAnnotations.find? key =
      if versionAnnotation = key then none else object.annotation? key := by
  rw [annotation?_eq]
  exact SortedMap.find?_erase ..

theorem SaysSame.otherAnnotations (h : SaysSame a b) :
    a.otherAnnotations = b.otherAnnotations := by
  refine SortedMap.ext_find? fun key => ?_
  rw [find?_otherAnnotations, find?_otherAnnotations]
  by_cases hkey : versionAnnotation = key
  · rw [if_pos hkey, if_pos hkey]
  · rw [if_neg hkey, if_neg hkey, h.annotations key (Ne.symm hkey)]

theorem unversioned_eq (object : Resource kind) :
    object.unversioned = ⟨object.metadata.unannotated.annotated
      (if object.otherAnnotations.isEmpty then none else some object.otherAnnotations),
      object.body⟩ := by
  have hannotations : object.metadata.unversioned.annotations =
      if object.otherAnnotations.isEmpty then none else some object.otherAnnotations := by
    unfold otherAnnotations
    cases h : object.metadata.annotations with
    | none => simp only [ObjectMeta.unversioned, h]; rfl
    | some annotations =>
      simp only [ObjectMeta.unversioned, h, Option.map_some, Option.filter_some, Option.getD_some]
      cases (annotations.erase versionAnnotation).isEmpty <;> rfl
  rw [← hannotations]
  rfl

theorem getD_annotations_unversioned (object : Resource kind) :
    object.unversioned.metadata.annotations.getD .empty = object.otherAnnotations := by
  rw [unversioned_eq]
  change (if object.otherAnnotations.isEmpty then none
    else some object.otherAnnotations).getD .empty = _
  split
  · next h =>
    refine SortedMap.ext_find? fun key => ?_
    rw [SortedMap.find?, SortedMap.find?, List.isEmpty_iff.1 h]
    rfl
  · rfl

theorem saysSame_unversioned (object : Resource kind) : SaysSame object.unversioned object where
  body := rfl
  metadata := rfl
  annotations key hkey := by
    rw [annotation?_eq, getD_annotations_unversioned, find?_otherAnnotations, if_neg (Ne.symm hkey)]

/-- To say the same is to be equal without the versions, where no annotations are left out. -/
theorem saysSame_iff_unversioned : SaysSame a b ↔ a.unversioned = b.unversioned := by
  constructor
  · intro h
    rw [unversioned_eq, unversioned_eq, h.metadata, h.otherAnnotations, h.body]
  · intro h
    have hb := saysSame_unversioned b
    rw [← h] at hb
    exact (saysSame_unversioned a).symm.trans hb

theorem stamp_eq (object : Resource kind) :
    object.stamp = ⟨object.metadata.unannotated.annotated
      (some (object.otherAnnotations.insert versionAnnotation object.contentVersion)),
      object.body⟩ := by
  rw [← getD_annotations_unversioned]
  rfl

theorem annotation?_stamp (object : Resource kind) (key : String) :
    object.stamp.annotation? key =
      if versionAnnotation = key then some object.contentVersion else object.annotation? key := by
  rw [stamp_eq]
  change (object.otherAnnotations.insert _ _).find? key = _
  rw [SortedMap.find?_insert, find?_otherAnnotations]
  split <;> rfl

theorem saysSame_stamp (object : Resource kind) : SaysSame object.stamp object where
  body := rfl
  metadata := rfl
  annotations key hkey := by rw [annotation?_stamp, if_neg (Ne.symm hkey)]

theorem SaysSame.contentVersion (h : SaysSame a b) : a.contentVersion = b.contentVersion := by
  unfold Resource.contentVersion
  rw [saysSame_iff_unversioned.1 h]

theorem SaysSame.stamp (h : SaysSame a b) : a.stamp = b.stamp := by
  rw [stamp_eq, stamp_eq, h.body, h.metadata, h.otherAnnotations, h.contentVersion]

/-- Stamps are equal exactly where the objects say the same. -/
theorem stamp_eq_stamp_iff : a.stamp = b.stamp ↔ SaysSame a b := by
  refine ⟨fun h => ?_, SaysSame.stamp⟩
  have hb := saysSame_stamp b
  rw [← h] at hb
  exact (saysSame_stamp a).symm.trans hb

end Resource

/-- The version of an object depends on its content only. A stamp gives the object the version of
its content and changes nothing else that it says, and what has been stamped stays as it is. Two
objects get equal stamps exactly if they are equal once their versions, and maps without any other
annotation, are left out. -/
theorem version_of_content {kind : Kind} (object : Resource kind) :
    object.stamp.SaysSame object ∧ object.stamp.version? = some object.contentVersion ∧
      object.stamp.stamp = object.stamp ∧
      ∀ other : Resource kind, (object.stamp = other.stamp ↔ object.SaysSame other) ∧
        (object.SaysSame other ↔ object.unversioned = other.unversioned) := by
  refine ⟨object.saysSame_stamp, ?_, object.saysSame_stamp.stamp,
    fun other => ⟨Resource.stamp_eq_stamp_iff, Resource.saysSame_iff_unversioned⟩⟩
  exact (object.annotation?_stamp versionAnnotation).trans (if_pos rfl)

end ShardOperator
