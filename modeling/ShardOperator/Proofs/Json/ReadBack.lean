import ShardOperator.Json.Fields
import ShardOperator.Proofs.Data.Lookup

namespace ShardOperator

section Lists

variable {α β : Type} {read : β → Option α}

theorem mapM_map_eq_some {write : α → β} {items : List α}
    (h : ∀ item ∈ items, read (write item) = some item) :
    (items.map write).mapM read = some items := by
  induction items with
  | nil => rfl
  | cons item rest ih =>
    obtain ⟨hitem, hrest⟩ := List.forall_mem_cons.1 h
    rw [List.map_cons, List.mapM_cons, hitem, ih hrest]
    rfl

theorem exists_of_mem_mapM {items : List β} {values : List α} (h : items.mapM read = some values)
    {value : α} (hvalue : value ∈ values) : ∃ item ∈ items, read item = some value := by
  induction items generalizing values with
  | nil =>
    obtain rfl := Option.some.inj h
    cases hvalue
  | cons item rest ih =>
    rw [List.mapM_cons] at h
    obtain ⟨first, hfirst, h⟩ := Option.bind_eq_some_iff.1 h
    obtain ⟨more, hmore, h⟩ := Option.bind_eq_some_iff.1 h
    obtain rfl := Option.some.inj h
    rcases List.mem_cons.1 hvalue with rfl | hvalue
    · exact ⟨item, List.mem_cons_self .., hfirst⟩
    · obtain ⟨other, hother, hread⟩ := ih hmore hvalue
      exact ⟨other, List.mem_cons_of_mem _ hother, hread⟩

theorem isSome_mapM_iff {items : List β} :
    (items.mapM read).isSome = true ↔ ∀ item ∈ items, (read item).isSome = true := by
  induction items with
  | nil => exact iff_of_true rfl fun _ h => absurd h List.not_mem_nil
  | cons item rest ih =>
    rw [List.mapM_cons, List.forall_mem_cons, ← ih]
    cases read item with
    | none => exact iff_of_false nofun fun h => nomatch h.1
    | some value =>
      cases rest.mapM read with
      | none => exact iff_of_false nofun fun h => nomatch h.2
      | some values => exact iff_of_true rfl ⟨rfl, rfl⟩

end Lists

namespace Json

/-- A value is read from what it is written as, and that is not `null`, which says that there is no
value. -/
structure ReadsBack {α : Type} (read : Json → Option α) (write : α → Json) (x : α) : Prop where
  read_write : read (write x) = some x
  write_ne_null : write x ≠ .null

theorem readsBack_text (s : String) : ReadsBack text? .str s := ⟨rfl, nofun⟩

theorem readsBack_bool (b : Bool) : ReadsBack bool? .bool b := ⟨rfl, nofun⟩

theorem readsBack_int32 (n : Int32) : ReadsBack int32? ofInt32 n where
  read_write := by
    have hlow : -2147483648 ≤ n.toInt := n.le_toInt
    have hhigh : n.toInt < 2147483648 := n.toInt_lt
    unfold int32? ofInt32
    change (if -2147483648 ≤ n.toInt ∧ n.toInt < 2147483648 then
      some (Int32.ofInt n.toInt) else none) = some n
    rw [if_pos ⟨hlow, hhigh⟩, Int32.ofInt_toInt]
  write_ne_null := nofun

theorem readsBack_int64 (n : Int64) : ReadsBack int64? ofInt64 n where
  read_write := by
    have hlow : -9223372036854775808 ≤ n.toInt := n.le_toInt
    have hhigh : n.toInt < 9223372036854775808 := n.toInt_lt
    unfold int64? ofInt64
    change (if -9223372036854775808 ≤ n.toInt ∧ n.toInt < 9223372036854775808 then
      some (Int64.ofInt n.toInt) else none) = some n
    rw [if_pos ⟨hlow, hhigh⟩, Int64.ofInt_toInt]
  write_ne_null := nofun

theorem nat?_ofNat {n limit : Nat} (h : n < limit) : (ofNat n).nat? limit = some n :=
  if_pos ⟨Int.natCast_nonneg n, Int.ofNat_lt.2 h⟩

theorem readsBack_uint32 (n : UInt32) : ReadsBack uint32? (ofNat ·.toNat) n where
  read_write := by
    unfold uint32?
    rw [nat?_ofNat n.toNat_lt, Option.map_some, UInt32.ofNat_toNat]
  write_ne_null := nofun

section Parts

variable {α : Type} {read : Json → Option α} {write : α → Json}

theorem readsBack_list {items : List α} (h : ∀ item ∈ items, ReadsBack read write item) :
    ReadsBack (list? read) (ofList write) items where
  read_write := mapM_map_eq_some fun item hitem => (h item hitem).read_write
  write_ne_null := nofun

theorem readsBack_map {map : SortedMap α}
    (h : ∀ entry ∈ map.entries, read (write entry.2) = some entry.2) :
    ReadsBack (map? read) (ofMap write) map where
  read_write := by
    have hentries : (map.entries.map fun e => (e.1, write e.2)).mapM
        (fun f => (read f.2).map (f.1, ·)) = some map.entries := by
      refine mapM_map_eq_some fun entry hentry => ?_
      rw [h entry hentry]
      rfl
    unfold map? ofMap
    change Option.map SortedMap.ofList _ = some map
    rw [hentries, Option.map_some, SortedMap.ofList_entries]
  write_ne_null := nofun

/-- The last value that is given under a key is the one that is read. -/
theorem map_lookup_of_map? {fields : Fields} {map : SortedMap α}
    (h : map? read (.obj fields) = some map) (key : String) :
    (fields.reverse.lookup key).map read = (map.find? key).map some := by
  obtain ⟨values, hvalues, rfl⟩ := Option.map_eq_some_iff.1 h
  rw [SortedMap.find?_ofList]
  clear h
  induction fields generalizing values with
  | nil =>
    obtain rfl := Option.some.inj hvalues
    rfl
  | cons field rest ih =>
    rw [List.mapM_cons] at hvalues
    obtain ⟨first, hfirst, hvalues⟩ := Option.bind_eq_some_iff.1 hvalues
    obtain ⟨more, hmore, hvalues⟩ := Option.bind_eq_some_iff.1 hvalues
    obtain rfl := Option.some.inj hvalues
    obtain ⟨value, hvalue, rfl⟩ := Option.map_eq_some_iff.1 hfirst
    rw [List.reverse_cons, List.reverse_cons, lookup_concat, lookup_concat, Option.map_or,
      Option.map_or, ih more hmore]
    congr 1
    by_cases hkey : field.1 = key
    · rw [if_pos hkey, if_pos hkey, Option.map_some, Option.map_some, hvalue]
    · rw [if_neg hkey, if_neg hkey, Option.map_none, Option.map_none]

theorem find?_of_map? {fields : Fields} {map : SortedMap α}
    (h : map? read (.obj fields) = some map) {key : String} {value : α} :
    map.find? key = some value ↔
      ∃ item, fields.reverse.lookup key = some item ∧ read item = some value := by
  rw [← Option.map_eq_some_iff, map_lookup_of_map? h, Option.map_eq_some_iff]
  simp

/-- The keys of a map that is read are the names in the object. -/
theorem forall_mem_of_map? {fields : Fields} {map : SortedMap α}
    (h : map? read (.obj fields) = some map) {P : String → Prop} :
    (∀ entry ∈ map.entries, P entry.1) ↔ ∀ field ∈ fields, P field.1 := by
  have hkey (key : String) :
      (∃ value, map.find? key = some value) ↔ ∃ field ∈ fields, field.1 = key := by
    have hlookup := congrArg Option.isSome (map_lookup_of_map? h key)
    rw [Option.isSome_map, Option.isSome_map] at hlookup
    rw [← Option.isSome_iff_exists, ← hlookup, isSome_lookup_iff]
    simp only [List.mem_reverse]
  constructor
  · intro hP field hfield
    obtain ⟨value, hvalue⟩ := (hkey field.1).2 ⟨field, hfield, rfl⟩
    exact hP _ (SortedMap.mem_of_find? hvalue)
  · intro hP entry hentry
    obtain ⟨field, hfield, hname⟩ := (hkey entry.1).1 ⟨_, SortedMap.find?_of_mem hentry⟩
    rw [← hname]
    exact hP field hfield

theorem isSome_map?_iff {fields : Fields} :
    (map? read (.obj fields)).isSome = true ↔ ∀ field ∈ fields, (read field.2).isSome = true := by
  unfold map?
  rw [Option.isSome_map, isSome_mapM_iff]
  simp only [Option.isSome_map]

/-- What every value that is read has, the items of a list that is read have. -/
theorem forall_of_list? {P : α → Prop} (hread : ∀ {value x}, read value = some x → P x)
    {value : Json} {items : List α} (h : value.list? read = some items) : ∀ x ∈ items, P x := by
  intro x hx
  unfold list? at h
  split at h
  · obtain ⟨item, -, hitem⟩ := exists_of_mem_mapM h hx
    exact hread hitem
  · cases h

end Parts

end Json

end ShardOperator
