import ShardOperator.Data.SortedMap

namespace ShardOperator

section Lookup

variable {α : Type}

theorem lookup_cons (field : String × α) (rest : List (String × α)) (key : String) :
    (field :: rest).lookup key = if field.1 = key then some field.2 else rest.lookup key := by
  obtain ⟨name, value⟩ := field
  rw [List.lookup_cons]
  by_cases hkey : name = key
  · simp [hkey]
  · have hne : (key == name) = false := by simpa using fun h : key = name => hkey h.symm
    simp [hkey, hne]

theorem lookup_eq_none {fields : List (String × α)} {key : String} (h : key ∉ fields.map (·.1)) :
    fields.lookup key = none := by
  rw [List.lookup_eq_none_iff]
  intro field hmem
  refine bne_iff_ne.2 ?_
  rintro rfl
  exact h (List.mem_map_of_mem hmem)

theorem isSome_lookup_iff {fields : List (String × α)} {key : String} :
    (fields.lookup key).isSome = true ↔ ∃ field ∈ fields, field.1 = key := by
  induction fields with
  | nil => simp
  | cons field rest ih =>
    rw [lookup_cons]
    by_cases hkey : field.1 = key
    · simp [hkey]
    · simp [hkey, ih]

theorem mem_of_lookup {fields : List (String × α)} {key : String} {value : α}
    (h : fields.lookup key = some value) : (key, value) ∈ fields := by
  obtain ⟨before, after, rfl, -⟩ := List.lookup_eq_some_iff.1 h
  exact List.mem_append_right before (List.mem_cons_self ..)

/-- A value at the end counts where there is none before it. -/
theorem lookup_concat (fields : List (String × α)) (field : String × α) (key : String) :
    (fields ++ [field]).lookup key =
      (fields.lookup key).or (if field.1 = key then some field.2 else none) := by
  rw [List.lookup_append, lookup_cons]
  rfl

end Lookup

namespace SortedMap

variable {α : Type}

theorem lt_of_mem_tail {head : String × α} {rest : List (String × α)}
    (h : (head :: rest).Pairwise (fun a b => a.1 < b.1)) {entry : String × α}
    (he : entry ∈ rest) : head.1 < entry.1 :=
  (List.pairwise_cons.1 h).1 entry he

theorem forall_mem_insertEntry {P : String × α → Prop} {key : String} {value : α}
    {entries : List (String × α)} (hnew : P (key, value)) (h : ∀ entry ∈ entries, P entry) :
    ∀ entry ∈ insertEntry key value entries, P entry := by
  intro entry hentry
  rcases mem_insertEntry hentry with rfl | hentry
  · exact hnew
  · exact h entry hentry

/-- Keys are unique, so an entry is what its key finds. -/
theorem find?_of_mem {map : SortedMap α} {entry : String × α} (h : entry ∈ map.entries) :
    map.find? entry.1 = some entry.2 := by
  obtain ⟨entries, ascending⟩ := map
  induction entries with
  | nil => simp at h
  | cons head rest ih =>
    rw [find?_cons]
    rcases List.mem_cons.1 h with rfl | h
    · rw [if_pos rfl]
    · have hlt := lt_of_mem_tail ascending h
      have hne : head.1 ≠ entry.1 := fun e => String.lt_irrefl entry.1 (by
        rw [e] at hlt
        exact hlt)
      rw [if_neg hne]
      exact ih (List.pairwise_cons.1 ascending).2 h

theorem mem_values {map : SortedMap α} {value : α} :
    value ∈ map.values ↔ ∃ key, map.find? key = some value := by
  constructor
  · intro h
    obtain ⟨entry, he, rfl⟩ := List.mem_map.1 h
    exact ⟨entry.1, find?_of_mem he⟩
  · rintro ⟨key, h⟩
    exact List.mem_map.2 ⟨(key, value), mem_of_find? h, rfl⟩

theorem find?_eq_some_iff {map : SortedMap α} {key : String} {value : α} :
    map.find? key = some value ↔ (key, value) ∈ map.entries :=
  ⟨mem_of_find?, fun h => find?_of_mem h⟩

/-- A condition leaves every entry that meets it, and none besides. -/
theorem find?_filter (map : SortedMap α) (keep : String → α → Bool) (key : String) :
    (map.filter keep).find? key = (map.find? key).filter (keep key) := by
  refine Option.ext fun value => ?_
  rw [find?_eq_some_iff, Option.filter_eq_some_iff, find?_eq_some_iff]
  exact List.mem_filter

theorem find?_filter_keys (map : SortedMap α) (keep : String → Bool) (key : String) :
    (map.filter fun k _ => keep k).find? key = if keep key then map.find? key else none := by
  rw [find?_filter]
  cases map.find? key with
  | none => exact (ite_self none).symm
  | some value => rfl

theorem find?_erase (map : SortedMap α) (key other : String) :
    (map.erase key).find? other = if key = other then none else map.find? other := by
  refine (map.find?_filter_keys (· != key) other).trans ?_
  by_cases h : key = other
  · rw [if_pos h, if_neg]
    simp [h]
  · rw [if_neg h, if_pos]
    exact bne_iff_ne.2 fun he => h he.symm

/-- A later entry hides an earlier one, and every entry hides the map below. -/
theorem find?_insertAll (map : SortedMap α) {entries : List (String × α)}
    (ascending : entries.Pairwise (fun a b => a.1 < b.1)) (key : String) :
    (map.insertAll entries).find? key =
      ((SortedMap.mk entries ascending).find? key).or (map.find? key) := by
  induction entries generalizing map with
  | nil => simp [insertAll, find?]
  | cons head rest ih =>
    have hrest := (List.pairwise_cons.1 ascending).2
    have hstep : map.insertAll (head :: rest) = (map.insert head.1 head.2).insertAll rest := rfl
    rw [hstep, ih _ hrest, find?_cons, find?_insert]
    by_cases hk : head.1 = key
    · have hnone : (SortedMap.mk rest hrest).find? key = none := by
        rw [← Option.not_isSome_iff_eq_none]
        intro hs
        have hlt := lt_of_find?_cons (h := ascending) hs
        rw [hk] at hlt
        exact String.lt_irrefl key hlt
      simp [hk, hnone]
    · simp [hk]

/-- Of several values inserted under one key the last stays. -/
theorem find?_insertAll_eq_lookup (map : SortedMap α) (entries : List (String × α))
    (key : String) :
    (map.insertAll entries).find? key = (entries.reverse.lookup key).or (map.find? key) := by
  induction entries generalizing map with
  | nil => rfl
  | cons head rest ih =>
    have hstep : map.insertAll (head :: rest) = (map.insert head.1 head.2).insertAll rest := rfl
    rw [hstep, ih, find?_insert, List.reverse_cons, lookup_concat, Option.or_assoc]
    congr 1
    by_cases hkey : head.1 = key
    · rw [if_pos hkey, if_pos hkey, Option.some_or]
    · rw [if_neg hkey, if_neg hkey, Option.none_or]

/-- Entries under other keys do not hide what a key finds. -/
theorem find?_insertAll_of_ne {key : String} {entries : List (String × α)}
    (h : ∀ entry ∈ entries, entry.1 ≠ key) (map : SortedMap α) :
    (map.insertAll entries).find? key = map.find? key := by
  have hnone : entries.reverse.lookup key = none := by
    refine lookup_eq_none fun hmem => ?_
    obtain ⟨entry, hentry, hkey⟩ := List.mem_map.1 hmem
    exact h entry (List.mem_reverse.1 hentry) hkey
  rw [find?_insertAll_eq_lookup, hnone, Option.none_or]

/-- What is found after the insertions is one of the entries, or was found before. -/
theorem mem_of_find?_insertAll {map : SortedMap α} {entries : List (String × α)} {key : String}
    {value : α} (h : (map.insertAll entries).find? key = some value) :
    (key, value) ∈ entries ∨ map.find? key = some value := by
  rw [find?_insertAll_eq_lookup, Option.or_eq_some_iff] at h
  exact h.imp (fun hlast => List.mem_reverse.1 (mem_of_lookup hlast)) And.right

theorem isSome_find?_insertAll (map : SortedMap α) (entries : List (String × α)) (key : String) :
    ((map.insertAll entries).find? key).isSome = true ↔
      (∃ value, (key, value) ∈ entries) ∨ (map.find? key).isSome = true := by
  rw [find?_insertAll_eq_lookup, Option.isSome_or, Bool.or_eq_true, isSome_lookup_iff]
  refine or_congr_left ⟨?_, ?_⟩
  · rintro ⟨⟨_, value⟩, hentry, rfl⟩
    exact ⟨value, List.mem_reverse.1 hentry⟩
  · rintro ⟨value, hentry⟩
    exact ⟨(key, value), List.mem_reverse.2 hentry, rfl⟩

theorem find?_ofList (entries : List (String × α)) (key : String) :
    (ofList entries).find? key = entries.reverse.lookup key :=
  (find?_insertAll_eq_lookup empty entries key).trans (Option.or_none ..)

theorem ofList_entries (map : SortedMap α) : ofList map.entries = map :=
  ext_find? fun key => (find?_insertAll empty map.ascending key).trans (Option.or_none ..)

theorem find?_override (map other : SortedMap α) (key : String) :
    (map.override other).find? key = (other.find? key).or (map.find? key) :=
  find?_insertAll map other.ascending key

theorem override_self (map : SortedMap α) : map.override map = map := by
  refine ext_find? fun key => ?_
  rw [find?_override, Option.or_self]

/-- What a map has been overridden with changes nothing when it overrides once more. -/
theorem override_override (map other : SortedMap α) :
    (map.override other).override other = map.override other := by
  refine ext_find? fun key => ?_
  rw [find?_override, find?_override, ← Option.or_assoc, Option.or_self]

/-- What hides a map already changes nothing when it hides it once more. -/
theorem override_overridden (map other : SortedMap α) :
    map.override (map.override other) = map.override other := by
  refine ext_find? fun key => ?_
  rw [find?_override, find?_override, Option.or_assoc, Option.or_self]

/-- Every entry of the map hides the one to be filled in. -/
theorem find?_fill (map other : SortedMap α) (key : String) :
    (map.fill other).find? key = (map.find? key).or (other.find? key) := by
  obtain ⟨entries, ascending⟩ := other
  unfold fill
  induction entries generalizing map with
  | nil => exact (Option.or_none ..).symm
  | cons head rest ih =>
    rw [List.foldl_cons, ih _ (List.pairwise_cons.1 ascending).2, find?_cons]
    by_cases hk : head.1 = key
    · subst hk
      rw [if_pos rfl]
      cases hfound : map.find? head.1 with
      | some value =>
        rw [if_pos (by rw [contains, hfound, Option.isSome_some]), hfound]
        rfl
      | none =>
        rw [if_neg (by simp [contains, hfound]), find?_insert, if_pos rfl]
        rfl
    · rw [if_neg hk]
      congr 1
      split
      · rfl
      · rw [find?_insert, if_neg hk]

end SortedMap

end ShardOperator
