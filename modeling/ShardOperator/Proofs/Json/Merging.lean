import Mathlib.Data.List.Nodup
import ShardOperator.Json.Fields
import ShardOperator.Json.MergePatch
import ShardOperator.Proofs.Data.Lookup

namespace ShardOperator

namespace Json

section Lookup

variable {key other : String} {value : Json} {fields : List (String × Json)}

theorem lookup_setField (key : String) (value : Json) (fields : List (String × Json))
    (other : String) : (setField key value fields).lookup other =
      if key = other then some value else fields.lookup other := by
  induction fields with
  | nil => exact lookup_cons ..
  | cons field rest ih =>
    unfold setField
    split
    · next hfield =>
      rw [lookup_cons, lookup_cons, hfield]
      split <;> rfl
    · next hfield =>
      rw [lookup_cons, lookup_cons, ih]
      split
      · next hother => rw [if_neg fun h => hfield (hother.trans h.symm)]
      · rfl

theorem lookup_eraseField (key : String) (fields : List (String × Json)) (other : String) :
    (eraseField key fields).lookup other = if key = other then none else fields.lookup other := by
  unfold eraseField
  induction fields with
  | nil => exact (ite_self none).symm
  | cons field rest ih =>
    by_cases hfield : field.1 = key
    · rw [List.filter_cons_of_neg (by simp [hfield]), ih, lookup_cons, hfield]
      split <;> rfl
    · rw [List.filter_cons_of_pos (by simp [hfield]), lookup_cons, lookup_cons, ih]
      split
      · next hother => rw [if_neg fun h => hfield (hother.trans h.symm)]
      · rfl

theorem mem_keys_setField (h : other ∈ (setField key value fields).map (·.1)) :
    other = key ∨ other ∈ fields.map (·.1) := by
  induction fields with
  | nil => exact .inl (List.mem_singleton.1 h)
  | cons field rest ih =>
    unfold setField at h
    split at h
    · exact (List.mem_cons.1 h).imp_right (List.mem_cons_of_mem _)
    · rcases List.mem_cons.1 h with rfl | h
      · exact .inr (List.mem_cons_self ..)
      · exact (ih h).imp_right (List.mem_cons_of_mem _)

theorem nodup_setField (h : (fields.map (·.1)).Nodup) :
    ((setField key value fields).map (·.1)).Nodup := by
  induction fields with
  | nil => exact List.nodup_singleton key
  | cons field rest ih =>
    obtain ⟨hfirst, hrest⟩ := List.nodup_cons.1 h
    unfold setField
    split
    · next hfield => exact List.nodup_cons.2 ⟨hfield ▸ hfirst, hrest⟩
    · next hfield =>
      refine List.nodup_cons.2 ⟨fun hmem => ?_, ih hrest⟩
      exact (mem_keys_setField hmem).elim hfield hfirst

theorem nodup_eraseField (h : (fields.map (·.1)).Nodup) :
    ((eraseField key fields).map (·.1)).Nodup :=
  h.sublist (List.filter_sublist.map _)

end Lookup

section Merge

/-- The fields after one field of a patch. -/
def patchField (target : List (String × Json)) (key : String) : Json → List (String × Json)
  | .null => eraseField key target
  | patch => setField key (mergePatch ((target.lookup key).getD .null) patch) target

/-- What becomes of a field for which a patch has a value, or has none. -/
def patched (old : Option Json) : Option Json → Option Json
  | none => old
  | some .null => none
  | some patch => some (mergePatch (old.getD .null) patch)

variable {target : List (String × Json)} {key : String}

theorem mergeFields_cons (target : List (String × Json)) (field : String × Json)
    (rest : List (String × Json)) :
    mergeFields target (field :: rest) = mergeFields (patchField target field.1 field.2) rest := by
  obtain ⟨key, patch⟩ := field
  cases patch <;> rw [mergeFields, patchField] <;> exact nofun

theorem lookup_patchField (target : List (String × Json)) (key : String) (patch : Json)
    (other : String) : (patchField target key patch).lookup other =
      if key = other then patched (target.lookup key) (some patch) else target.lookup other := by
  cases patch with
  | null => exact lookup_eraseField ..
  | _ => exact lookup_setField ..

theorem nodup_patchField (h : (target.map (·.1)).Nodup) (key : String) (patch : Json) :
    ((patchField target key patch).map (·.1)).Nodup := by
  cases patch with
  | null => exact nodup_eraseField h
  | _ => exact nodup_setField h

theorem nodup_mergeFields (h : (target.map (·.1)).Nodup) (patch : List (String × Json)) :
    ((mergeFields target patch).map (·.1)).Nodup := by
  induction patch generalizing target with
  | nil =>
    rw [mergeFields]
    exact h
  | cons field rest ih =>
    rw [mergeFields_cons]
    exact ih (nodup_patchField h ..)

/-- A patch that names each field at most once treats each field on its own. -/
theorem lookup_mergeFields {patch : List (String × Json)} (h : (patch.map (·.1)).Nodup)
    (target : List (String × Json)) (key : String) :
    (mergeFields target patch).lookup key = patched (target.lookup key) (patch.lookup key) := by
  induction patch generalizing target with
  | nil =>
    rw [mergeFields]
    rfl
  | cons field rest ih =>
    obtain ⟨hfirst, hrest⟩ := List.nodup_cons.1 h
    rw [mergeFields_cons, ih hrest, lookup_patchField, lookup_cons]
    split
    · next hkey =>
      subst hkey
      rw [lookup_eq_none hfirst]
      rfl
    · rfl

theorem field?_mergePatch {patch : List (String × Json)} (h : (patch.map (·.1)).Nodup)
    (target : Json) (key : String) :
    (target.mergePatch (.obj patch)).field? key =
      patched (target.field? key) (patch.lookup key) := by
  have hfield : target.field? key = (fieldsOf target).lookup key := by
    cases target <;> rfl
  rw [hfield, mergePatch]
  exact lookup_mergeFields h ..

theorem field?_mergePatch_single (target patch : Json) (name key : String) :
    (target.mergePatch (.obj [(name, patch)])).field? key =
      if name = key then patched (target.field? name) (some patch) else target.field? key := by
  have hnodup : ([(name, patch)].map (·.1)).Nodup := List.nodup_singleton name
  rw [field?_mergePatch hnodup, lookup_cons]
  split
  · next hkey =>
    obtain rfl : name = key := hkey
    rfl
  · rfl

/-- A value without parts of its own takes the place of an old one. -/
def Plain (value : Json) : Prop := value ≠ .null ∧ ∀ fields, value ≠ .obj fields

theorem mergePatch_plain {value : Json} (h : value.Plain) (target : Json) :
    mergePatch target value = value := by
  cases value with
  | obj fields => exact absurd rfl (h.2 fields)
  | _ => simp [mergePatch]

theorem patched_plain {new : Option Json} (h : ∀ value ∈ new, value.Plain) (old : Option Json) :
    patched old new = new.or old := by
  cases new with
  | none => rfl
  | some value =>
    have hplain : value.Plain := h value rfl
    have hpatched : patched old (some value) = some (mergePatch (old.getD .null) value) := by
      cases value with
      | null => exact absurd rfl hplain.1
      | _ => rfl
    rw [hpatched, mergePatch_plain hplain, Option.some_or]

end Merge

section Objects

theorem keys_filterMap_sublist (fields : List (String × Option Json)) :
    ((fields.filterMap fun f => f.2.map (f.1, ·)).map (·.1)).Sublist (fields.map (·.1)) := by
  induction fields with
  | nil => exact .slnil
  | cons field rest ih =>
    obtain ⟨key, value⟩ := field
    cases value with
    | none => exact ih.cons key
    | some value => exact ih.cons_cons key

/-- The fields with no value are missing from an object. -/
theorem lookup_filterMap {fields : List (String × Option Json)} (h : (fields.map (·.1)).Nodup)
    (key : String) :
    (fields.filterMap fun f => f.2.map (f.1, ·)).lookup key = (fields.lookup key).join := by
  induction fields with
  | nil => rfl
  | cons field rest ih =>
    obtain ⟨hfirst, hrest⟩ := List.nodup_cons.1 h
    obtain ⟨name, value⟩ := field
    rw [lookup_cons]
    cases value with
    | none =>
      refine (ih hrest).trans ?_
      split
      · next hkey =>
        subst hkey
        rw [lookup_eq_none hfirst]
        rfl
      · rfl
    | some value =>
      refine (lookup_cons ..).trans ?_
      rw [ih hrest]
      split <;> rfl

/-- Entries of the same keys, the second ones where the first have no value. -/
def fillIn (first second : List (String × Option Json)) : List (String × Option Json) :=
  List.zipWith (fun a b => (a.1, a.2.or b.2)) first second

theorem lookup_fillIn {first second : List (String × Option Json)}
    (hkeys : first.map (·.1) = second.map (·.1)) (key : String) :
    ((fillIn first second).lookup key).join =
      (first.lookup key).join.or (second.lookup key).join := by
  induction first generalizing second with
  | nil =>
    obtain rfl := List.map_eq_nil_iff.1 hkeys.symm
    rfl
  | cons a rest ih =>
    cases second with
    | nil => cases hkeys
    | cons b more =>
      obtain ⟨hkey, hrest⟩ := List.cons.inj hkeys
      have hfirst : fillIn (a :: rest) (b :: more) = (a.1, a.2.or b.2) :: fillIn rest more := rfl
      have hkey : a.1 = b.1 := hkey
      rw [hfirst, lookup_cons, lookup_cons, lookup_cons, ← hkey]
      split
      · rfl
      · exact ih hrest

theorem record?_obj {declared : List String} {fields : Fields} (h : (fields.map (·.1)).Nodup) :
    (Json.obj fields).record? declared = some fields :=
  if_pos (h.filter _)

end Objects

end Json

namespace Fields

variable {fields : Fields} {key : String} {α : Type} {read : Json → Option α}

theorem last?_eq (h : (fields.map (·.1)).Nodup) (read : Json → Option α) (key : String) :
    fields.last? read key = (fields.lookup key).elim (some none) fun value =>
      (read value).map some := by
  induction fields with
  | nil => rfl
  | cons field rest ih =>
    obtain ⟨hfirst, hrest⟩ := List.nodup_cons.1 h
    unfold last?
    rw [ih hrest, lookup_cons]
    split
    · next hkey =>
      subst hkey
      rw [lookup_eq_none hfirst, Option.elim_some]
      cases read field.2 <;> rfl
    · rfl

theorem defaulted_of_lookup (h : (fields.map (·.1)).Nodup) {value : Json} {x default : α}
    (hlookup : fields.lookup key = some value) (hread : read value = some x) :
    fields.defaulted key default read = some x := by
  unfold defaulted
  rw [last?_eq h, hlookup, Option.elim_some, hread]
  rfl

theorem defaulted_missing (h : (fields.map (·.1)).Nodup) (hlookup : fields.lookup key = none)
    (default : α) : fields.defaulted key default read = some default := by
  unfold defaulted
  rw [last?_eq h, hlookup]
  rfl

end Fields

end ShardOperator
