import Mathlib.Tactic.SplitIfs
import ShardOperator.Proofs.Settings.Made

namespace ShardOperator

namespace Text

/-- The bytes of a text in UTF-8. -/
def bytes (s : String) : List UInt8 := s.toUTF8.data.toList

theorem bytes_eq (s : String) : bytes s = s.toList.flatMap String.utf8EncodeChar := by
  unfold bytes
  rw [String.toUTF8_eq_toByteArray, ← String.utf8Encode_toList, List.utf8Encode,
    List.data_toByteArray]

theorem ofNat_lt_ofNat {m n : Nat} (hm : m < 256) (hn : n < 256) :
    UInt8.ofNat m < UInt8.ofNat n ↔ m < n := by
  rw [UInt8.lt_iff_toNat_lt, UInt8.toNat_ofNat_of_lt' hm, UInt8.toNat_ofNat_of_lt' hn]

theorem ofNat_eq_ofNat {m n : Nat} (hm : m < 256) (hn : n < 256) :
    UInt8.ofNat m = UInt8.ofNat n ↔ m = n := by
  rw [← UInt8.toNat_inj, UInt8.toNat_ofNat_of_lt' hm, UInt8.toNat_ofNat_of_lt' hn]

/-- Of two characters the bytes tell the order, whatever follows: the first byte tells the length,
and bytes of one length are the digits of the code points. -/
theorem encodeChar_append_lt {c d : Char} (h : c < d) (xs ys : List UInt8) :
    String.utf8EncodeChar c ++ xs < String.utf8EncodeChar d ++ ys := by
  have hlt : c.val.toNat < d.val.toNat := h
  have hmax : d.val.toNat < 1114112 := by
    rcases d.valid with h | h <;> omega
  -- Each digit is taken from the one before it, so that they are compared one after the other.
  have high (n : Nat) : n / 4096 = n / 64 / 64 ∧ n / 262144 = n / 64 / 64 / 64 := by omega
  unfold String.utf8EncodeChar
  generalize c.val.toNat = m at hlt
  generalize d.val.toNat = n at hlt hmax
  simp only [high]
  split_ifs <;> simp only [List.cons_append, List.nil_append, List.cons_lt_cons_iff] <;>
    simp (disch := omega) only [ofNat_lt_ofNat, ofNat_eq_ofNat] <;> omega

theorem flatMap_encodeChar_lt {cs ds : List Char} (h : cs < ds) :
    cs.flatMap String.utf8EncodeChar < ds.flatMap String.utf8EncodeChar := by
  induction cs generalizing ds with
  | nil =>
    cases ds with
    | nil => exact absurd h (List.lt_irrefl _)
    | cons d ds =>
      rw [List.flatMap_nil, List.flatMap_cons]
      cases hd : String.utf8EncodeChar d with
      | nil => exact absurd hd String.utf8EncodeChar_ne_nil
      | cons first rest => exact List.nil_lt_cons ..
  | cons c cs ih =>
    cases ds with
    | nil => exact absurd h (List.not_lt_nil _)
    | cons d ds =>
      rw [List.flatMap_cons, List.flatMap_cons]
      rcases List.cons_lt_cons_iff.1 h with hfirst | ⟨rfl, hrest⟩
      · exact encodeChar_append_lt hfirst ..
      · exact List.append_left_lt (ih hrest)

/-- Texts are in the order of their bytes. -/
theorem bytes_lt_iff {a b : String} : bytes a < bytes b ↔ a < b := by
  have mono {a b : String} (h : a < b) : bytes a < bytes b := by
    rw [bytes_eq, bytes_eq]
    exact flatMap_encodeChar_lt h
  refine ⟨fun h => ?_, mono⟩
  by_cases hab : a < b
  · exact hab
  · by_cases hba : b < a
    · exact absurd (mono hba) (List.lt_asymm h)
    · obtain rfl := SortedMap.eq_of_not_lt hab hba
      exact absurd h (List.lt_irrefl _)

theorem bytes_le_iff {a b : String} : bytes a ≤ bytes b ↔ a ≤ b := not_congr bytes_lt_iff

end Text

namespace Settings

theorem get?_set (s : Settings) (path : String) (value : Setting) (other : String) :
    (s.set path value).get? other =
      if canonical path = canonical other then some value else s.get? other :=
  s.entries.find?_insert (canonical path) (canonical other) value

theorem get?_ofPairs (pairs : List (String × Setting)) (path : String) :
    (ofPairs pairs).get? path =
      (pairs.map fun pair => (canonical pair.1, pair.2)).reverse.lookup (canonical path) := by
  rw [ofPairs_eq]
  exact SortedMap.find?_ofList _ (canonical path)

theorem get?_ofPairs_cons (pair : String × Setting) (rest : List (String × Setting))
    (path : String) :
    (ofPairs (pair :: rest)).get? path = ((ofPairs rest).get? path).or
      (if canonical pair.1 = canonical path then some pair.2 else none) := by
  rw [get?_ofPairs, get?_ofPairs, List.map_cons, List.reverse_cons, lookup_concat]

theorem get?_ofPairs_eq_none_iff {pairs : List (String × Setting)} {path : String} :
    (ofPairs pairs).get? path = none ↔ ∀ pair ∈ pairs, canonical pair.1 ≠ canonical path := by
  induction pairs with
  | nil => exact iff_of_true rfl fun _ h => absurd h List.not_mem_nil
  | cons first rest ih =>
    rw [get?_ofPairs_cons, Option.or_eq_none_iff, ih, List.forall_mem_cons, and_comm]
    refine and_congr_left fun _ => ?_
    by_cases h : canonical first.1 = canonical path
    · exact iff_of_false (by rw [if_pos h]; nofun) fun hne => hne h
    · exact iff_of_true (if_neg h) h

/-- Of the pairs that spell a path, the one with the greatest spelling has the value. -/
def Counts (pairs : List (String × Setting)) (path : String) (value : Setting) : Prop :=
  ∃ key, (key, value) ∈ pairs ∧ canonical key = canonical path ∧
    ∀ pair ∈ pairs, canonical pair.1 = canonical path → pair.1 ≤ key

section Counting

variable {first : String × Setting} {rest : List (String × Setting)} {path : String}
  {value : Setting}

/-- A spelling that a greater one follows does not count. -/
theorem counts_cons_of_spelled (hfirst : ∀ pair ∈ rest, first.1 < pair.1)
    (hspelled : ∃ pair ∈ rest, canonical pair.1 = canonical path) :
    Counts (first :: rest) path value ↔ Counts rest path value := by
  obtain ⟨other, hother, hsame⟩ := hspelled
  constructor
  · rintro ⟨key, hmem, hkey, hgreatest⟩
    have hle : ∀ pair ∈ rest, canonical pair.1 = canonical path → pair.1 ≤ key :=
      fun pair hpair => hgreatest pair (List.mem_cons_of_mem _ hpair)
    rcases List.mem_cons.1 hmem with rfl | hmem
    · exact absurd (hfirst _ hother) (String.not_lt.2 (hle other hother hsame))
    · exact ⟨key, hmem, hkey, hle⟩
  · rintro ⟨key, hmem, hkey, hgreatest⟩
    refine ⟨key, List.mem_cons_of_mem _ hmem, hkey, List.forall_mem_cons.2 ⟨fun _ => ?_, ?_⟩⟩
    · exact String.not_lt.1 (String.lt_asymm (hfirst _ hmem))
    · exact hgreatest

theorem counts_cons_of_unspelled (h : ∀ pair ∈ rest, canonical pair.1 ≠ canonical path) :
    Counts (first :: rest) path value ↔ canonical first.1 = canonical path ∧ first.2 = value := by
  constructor
  · rintro ⟨key, hmem, hkey, -⟩
    rcases List.mem_cons.1 hmem with rfl | hmem
    · exact ⟨hkey, rfl⟩
    · exact absurd hkey (h _ hmem)
  · rintro ⟨hkey, rfl⟩
    refine ⟨first.1, List.mem_cons_self .., hkey, List.forall_mem_cons.2 ⟨fun _ => ?_, ?_⟩⟩
    · exact String.le_refl first.1
    · exact fun pair hpair hsame => absurd hsame (h pair hpair)

end Counting

/-- Where pairs come in ascending order, the last spelling of a path is the greatest. -/
theorem get?_ofPairs_iff {pairs : List (String × Setting)}
    (ascending : pairs.Pairwise fun a b => a.1 < b.1) {path : String} {value : Setting} :
    (ofPairs pairs).get? path = some value ↔ Counts pairs path value := by
  induction pairs with
  | nil => exact iff_of_false nofun fun ⟨_, hmem, _⟩ => List.not_mem_nil hmem
  | cons first rest ih =>
    obtain ⟨hfirst, hrest⟩ := List.pairwise_cons.1 ascending
    rw [get?_ofPairs_cons]
    by_cases hnone : (ofPairs rest).get? path = none
    · rw [counts_cons_of_unspelled (get?_ofPairs_eq_none_iff.1 hnone), hnone, Option.none_or,
        Option.ite_none_right_eq_some, Option.some.injEq]
    · have hspelled : ∃ pair ∈ rest, canonical pair.1 = canonical path := by
        simpa [get?_ofPairs_eq_none_iff] using hnone
      rw [counts_cons_of_spelled hfirst hspelled, ← ih hrest,
        Option.or_of_isSome (Option.isSome_iff_ne_none.2 hnone)]

/-- Of the names in an object that spell a path, `key` is the byte-wise greatest. -/
structure GreatestSpelling (fields : Fields) (path key : String) : Prop where
  spells : canonical key = canonical path
  greatest : ∀ field ∈ fields, canonical field.1 = canonical path →
    Text.bytes field.1 ≤ Text.bytes key

section Reading

variable {fields : Fields} {s : Settings}

theorem isSome_ofJson?_iff :
    (ofJson? (.obj fields)).isSome = true ↔
      ∀ field ∈ fields, (Setting.ofJson? field.2).isSome = true := by
  unfold ofJson?
  rw [Option.isSome_map]
  exact Json.isSome_map?_iff

theorem get?_eq_none_iff_of_ofJson? (h : ofJson? (.obj fields) = some s) (path : String) :
    s.get? path = none ↔ ∀ field ∈ fields, canonical field.1 ≠ canonical path := by
  obtain ⟨raw, hraw, rfl⟩ := Option.map_eq_some_iff.1 h
  rw [get?_ofPairs_eq_none_iff]
  exact Json.forall_mem_of_map? hraw (P := fun key => canonical key ≠ canonical path)

/-- What an object is read as: of several spellings of a path the byte-wise greatest counts, and of
several values under that spelling the last. -/
theorem get?_of_ofJson? (h : ofJson? (.obj fields) = some s) (path : String) (value : Setting) :
    s.get? path = some value ↔
      ∃ key item, GreatestSpelling fields path key ∧ fields.reverse.lookup key = some item ∧
        Setting.ofJson? item = some value := by
  obtain ⟨raw, hraw, rfl⟩ := Option.map_eq_some_iff.1 h
  have hgreatest (key : String) :
      (∀ pair ∈ raw.entries, canonical pair.1 = canonical path → pair.1 ≤ key) ↔
        ∀ field ∈ fields, canonical field.1 = canonical path →
          Text.bytes field.1 ≤ Text.bytes key := by
    simp only [Text.bytes_le_iff]
    exact Json.forall_mem_of_map? hraw
      (P := fun name => canonical name = canonical path → name ≤ key)
  rw [get?_ofPairs_iff raw.ascending, Counts]
  simp only [hgreatest, ← SortedMap.find?_eq_some_iff, Json.find?_of_map? hraw]
  constructor
  · rintro ⟨key, ⟨item, hitem, hread⟩, hkey, hle⟩
    exact ⟨key, item, ⟨hkey, hle⟩, hitem, hread⟩
  · rintro ⟨key, item, ⟨hkey, hle⟩, hitem, hread⟩
    exact ⟨key, ⟨item, hitem, hread⟩, hkey, hle⟩

end Reading

/-- Paths are stored in their canonical spelling by every way of making settings, so that a value
set under one spelling is found under all of them. An object is read where each of its values is,
and then holds for a path what it gives under the greatest spelling. -/
theorem paths_canonical :
    (∀ path, canonical (canonical path) = canonical path) ∧
    (∀ s : Settings, s.Made → ∀ entry ∈ s.entries.entries, canonical entry.1 = entry.1) ∧
    (∀ pairs, (ofPairs pairs).Made) ∧
    (∀ value s, ofJson? value = some s → s.Made) ∧
    (∀ (s : Settings) (path : String) (value : Setting) (other : String),
      (s.set path value).get? other =
        if canonical path = canonical other then some value else s.get? other) ∧
    ∀ fields : Fields,
      ((ofJson? (.obj fields)).isSome = true ↔
        ∀ field ∈ fields, (Setting.ofJson? field.2).isSome = true) ∧
      ∀ s, ofJson? (.obj fields) = some s → ∀ path,
        (s.get? path = none ↔ ∀ field ∈ fields, canonical field.1 ≠ canonical path) ∧
        ∀ value, s.get? path = some value ↔
          ∃ key item, GreatestSpelling fields path key ∧ fields.reverse.lookup key = some item ∧
            Setting.ofJson? item = some value := by
  refine ⟨canonical_canonical, fun s h entry => h.canonical_of_mem, Made.ofPairs,
    fun value s => Made.of_ofJson?, get?_set, fun fields => ⟨isSome_ofJson?_iff, ?_⟩⟩
  intro s h path
  exact ⟨get?_eq_none_iff_of_ofJson? h path, get?_of_ofJson? h path⟩

/-- Four spellings of one path, of which one stands twice. The no-break space is the greatest. -/
def spelledOften : Fields :=
  [("a/\u00a0b", .str "1"), ("a/b", .int 2), ("a//b", .bool true), ("a/\u00a0b", .str "last"),
    ("a/ b", .str "4"), ("c", .arr [.str "5"])]

theorem paths_canonical_spelled_often :
    ∃ s, ofJson? (.obj spelledOften) = some s ∧ s.Made ∧
      (∀ entry ∈ s.entries.entries, canonical entry.1 = entry.1) ∧
      s.get? " a // b/" = some (.scalar "last") ∧ s.get? "b" = none ∧
      (s.set "/c" (.scalar "new")).get? "c/" = some (.scalar "new") ∧
      (s.set "/c" (.scalar "new")).get? "a/b" = some (.scalar "last") := by
  obtain ⟨-, hkeys, -, hmade, hset, hread⟩ := paths_canonical
  obtain ⟨hsome, hread⟩ := hread spelledOften
  obtain ⟨s, hs⟩ := Option.isSome_iff_exists.1 (hsome.2 (by decide))
  have hlast (path : String) (h : canonical path = "a/b") :
      s.get? path = some (.scalar "last") := by
    refine ((hread s hs path).2 _).2 ⟨"a/\u00a0b", .str "last", ⟨?_, ?_⟩, rfl, rfl⟩
    · rw [h]
      decide
    · rw [h]
      decide
  refine ⟨s, hs, hmade _ s hs, hkeys s (hmade _ s hs), hlast _ (by decide), ?_, ?_, ?_⟩
  · exact (hread s hs "b").1.2 (by decide)
  · rw [hset, if_pos (by decide)]
  · rw [hset, if_neg (by decide)]
    exact hlast "a/b" (by decide)

end Settings

end ShardOperator
