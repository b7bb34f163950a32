namespace ShardOperator

/-- A map with text keys, kept in ascending key order so that equal maps are equal values. -/
structure SortedMap (α : Type) where
  entries : List (String × α)
  ascending : entries.Pairwise (fun a b => a.1 < b.1)
  deriving DecidableEq

namespace SortedMap

variable {α β : Type}

def insertEntry (key : String) (value : α) : List (String × α) → List (String × α)
  | [] => [(key, value)]
  | entry :: rest =>
    if key < entry.1 then (key, value) :: entry :: rest
    else if entry.1 < key then entry :: insertEntry key value rest
    else (key, value) :: rest

theorem mem_insertEntry {key : String} {value : α} {entry : String × α}
    {entries : List (String × α)} (h : entry ∈ insertEntry key value entries) :
    entry = (key, value) ∨ entry ∈ entries := by
  induction entries with
  | nil => simpa [insertEntry] using h
  | cons head rest ih =>
    unfold insertEntry at h
    split at h
    · simpa using h
    · split at h
      · rcases List.mem_cons.1 h with h | h
        · simp [h]
        · rcases ih h with h | h <;> simp [h]
      · rcases List.mem_cons.1 h with h | h <;> simp [h]

theorem eq_of_not_lt {a b : String} (hab : ¬ a < b) (hba : ¬ b < a) : a = b :=
  String.le_antisymm (String.not_lt.1 hba) (String.not_lt.1 hab)

theorem ascending_insertEntry (key : String) (value : α) {entries : List (String × α)}
    (h : entries.Pairwise (fun a b => a.1 < b.1)) :
    (insertEntry key value entries).Pairwise (fun a b => a.1 < b.1) := by
  induction entries with
  | nil => simp [insertEntry]
  | cons head rest ih =>
    have hrest := List.pairwise_cons.1 h
    unfold insertEntry
    split
    · next hlt =>
      refine List.pairwise_cons.2 ⟨fun entry he => ?_, h⟩
      rcases List.mem_cons.1 he with rfl | he
      · exact hlt
      · exact String.lt_trans hlt (hrest.1 _ he)
    · next hge =>
      split
      · next hgt =>
        refine List.pairwise_cons.2 ⟨fun entry he => ?_, ih hrest.2⟩
        rcases mem_insertEntry he with rfl | he
        · exact hgt
        · exact hrest.1 _ he
      · next hle =>
        have heq : head.1 = key := eq_of_not_lt hle hge
        exact List.pairwise_cons.2 ⟨fun entry he => heq ▸ hrest.1 _ he, hrest.2⟩

def empty : SortedMap α := ⟨[], List.Pairwise.nil⟩

instance : Inhabited (SortedMap α) := ⟨empty⟩

def insert (map : SortedMap α) (key : String) (value : α) : SortedMap α :=
  ⟨insertEntry key value map.entries, ascending_insertEntry key value map.ascending⟩

def find? (map : SortedMap α) (key : String) : Option α :=
  (map.entries.find? (·.1 == key)).map (·.2)

def contains (map : SortedMap α) (key : String) : Bool := (map.find? key).isSome

def isEmpty (map : SortedMap α) : Bool := map.entries.isEmpty

def size (map : SortedMap α) : Nat := map.entries.length

def keys (map : SortedMap α) : List String := map.entries.map (·.1)

def values (map : SortedMap α) : List α := map.entries.map (·.2)

def filter (map : SortedMap α) (keep : String → α → Bool) : SortedMap α :=
  ⟨map.entries.filter (fun e => keep e.1 e.2), map.ascending.filter _⟩

def erase (map : SortedMap α) (key : String) : SortedMap α := map.filter (fun k _ => k != key)

def mapValues (map : SortedMap α) (f : α → β) : SortedMap β :=
  ⟨map.entries.map (fun e => (e.1, f e.2)), map.ascending.map _ (fun _ _ h => h)⟩

/-- Inserts in order: of two entries with one key the later stays. -/
def insertAll (map : SortedMap α) (entries : List (String × α)) : SortedMap α :=
  entries.foldl (fun m e => m.insert e.1 e.2) map

def ofList (entries : List (String × α)) : SortedMap α := empty.insertAll entries

/-- Every entry of `other`, and those of `map` under the keys that `other` lacks. -/
def override (map other : SortedMap α) : SortedMap α := map.insertAll other.entries

/-- Every entry of `map`, and those of `other` under the keys that `map` lacks. -/
def fill (map other : SortedMap α) : SortedMap α :=
  other.entries.foldl (fun m e => if m.contains e.1 then m else m.insert e.1 e.2) map

@[simp] theorem find?_empty (key : String) : (empty : SortedMap α).find? key = none := rfl

theorem find?_insert (map : SortedMap α) (key other : String) (value : α) :
    (map.insert key value).find? other = if key = other then some value else map.find? other := by
  obtain ⟨entries, ascending⟩ := map
  simp only [find?, insert]
  induction entries with
  | nil => by_cases h : key = other <;> simp [insertEntry, h]
  | cons head rest ih =>
    have hrest := List.pairwise_cons.1 ascending
    unfold insertEntry
    split
    · next hlt => by_cases h : key = other <;> simp [List.find?_cons, h]
    · next hge =>
      split
      · next hgt =>
        by_cases hh : head.1 = other
        · have hk : key ≠ other := fun hk => String.lt_irrefl other (by
            have h := hgt; rw [hk, hh] at h; exact h)
          simp [hh, hk]
        · simpa [List.find?_cons, hh] using ih hrest.2
      · next hle =>
        have heq : head.1 = key := eq_of_not_lt hle hge
        by_cases h : key = other <;> simp [heq, h]

theorem find?_cons (head : String × α) (rest : List (String × α)) (h) (key : String) :
    (SortedMap.mk (head :: rest) h).find? key =
      if head.1 = key then some head.2
      else (SortedMap.mk rest (List.pairwise_cons.1 h).2).find? key := by
  by_cases hk : head.1 = key <;> simp [find?, hk]

theorem mem_of_find? {map : SortedMap α} {key : String} {value : α}
    (h : map.find? key = some value) : (key, value) ∈ map.entries := by
  simp only [find?, Option.map_eq_some_iff] at h
  obtain ⟨entry, hfind, rfl⟩ := h
  have hkey := List.find?_some hfind
  simp only [beq_iff_eq] at hkey
  exact hkey ▸ List.mem_of_find?_eq_some hfind

theorem lt_of_find?_cons {head : String × α} {rest : List (String × α)}
    {h : (head :: rest).Pairwise (fun a b => a.1 < b.1)} {key : String}
    (hk : ((SortedMap.mk rest (List.pairwise_cons.1 h).2).find? key).isSome) : head.1 < key := by
  obtain ⟨value, hv⟩ := Option.isSome_iff_exists.1 hk
  exact (List.pairwise_cons.1 h).1 _ (mem_of_find? hv)

/-- Two maps that answer every look-up alike are the same map. -/
theorem ext_find? {a b : SortedMap α} (h : ∀ key, a.find? key = b.find? key) : a = b := by
  obtain ⟨xs, hx⟩ := a
  obtain ⟨ys, hy⟩ := b
  suffices xs = ys by subst this; rfl
  induction xs generalizing ys with
  | nil =>
    cases ys with
    | nil => rfl
    | cons y ys => simpa [find?_cons, find?] using h y.1
  | cons x xs ih =>
    cases ys with
    | nil => simpa [find?_cons, find?] using h x.1
    | cons y ys =>
      have hxy : x.1 = y.1 := by
        apply eq_of_not_lt
        · intro hlt
          have hx' := h x.1
          have hne : y.1 ≠ x.1 := fun e => String.lt_irrefl x.1 (by rw [e] at hlt; exact hlt)
          rw [find?_cons, find?_cons, if_pos rfl, if_neg hne] at hx'
          exact String.lt_asymm hlt (lt_of_find?_cons (h := hy) (by simp [← hx']))
        · intro hlt
          have hy' := h y.1
          have hne : x.1 ≠ y.1 := fun e => String.lt_irrefl y.1 (by rw [e] at hlt; exact hlt)
          rw [find?_cons, find?_cons, if_neg hne, if_pos rfl] at hy'
          exact String.lt_asymm hlt (lt_of_find?_cons (h := hx) (by simp [hy']))
      have hval : x.2 = y.2 := by
        have hx' := h x.1
        rw [find?_cons, find?_cons, if_pos rfl, if_pos hxy.symm] at hx'
        simpa using hx'
      have htail := ih (List.pairwise_cons.1 hx).2 ys (List.pairwise_cons.1 hy).2 (by
        intro key
        have hkey := h key
        rw [find?_cons, find?_cons] at hkey
        by_cases hk : x.1 = key
        · have left : (SortedMap.mk xs (List.pairwise_cons.1 hx).2).find? key = none := by
            rw [← Option.not_isSome_iff_eq_none]
            intro hs
            exact String.lt_irrefl key (by
              have := lt_of_find?_cons (h := hx) hs; rw [hk] at this; exact this)
          have right : (SortedMap.mk ys (List.pairwise_cons.1 hy).2).find? key = none := by
            rw [← Option.not_isSome_iff_eq_none]
            intro hs
            exact String.lt_irrefl key (by
              have := lt_of_find?_cons (h := hy) hs; rw [← hxy, hk] at this; exact this)
          rw [left, right]
        · rwa [if_neg hk, if_neg (hxy ▸ hk)] at hkey)
      rw [htail, Prod.ext hxy hval]

end SortedMap

end ShardOperator
