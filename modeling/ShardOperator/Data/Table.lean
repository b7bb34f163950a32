namespace ShardOperator

/-- A finite table: each key has at most one entry, and entries keep the order in which their keys
came. -/
structure Table (κ α : Type) where
  entries : List (κ × α) := []

namespace Table

variable {κ α : Type} [DecidableEq κ]

instance : Inhabited (Table κ α) := ⟨{}⟩

def setEntry (key : κ) (value : α) : List (κ × α) → List (κ × α)
  | [] => [(key, value)]
  | entry :: rest =>
    if entry.1 = key then (key, value) :: rest else entry :: setEntry key value rest

def insert (t : Table κ α) (key : κ) (value : α) : Table κ α := ⟨setEntry key value t.entries⟩

def find? (t : Table κ α) (key : κ) : Option α := (t.entries.find? (·.1 = key)).map (·.2)

def contains (t : Table κ α) (key : κ) : Bool := (t.find? key).isSome

def erase (t : Table κ α) (key : κ) : Table κ α := ⟨t.entries.filter (·.1 ≠ key)⟩

def size (t : Table κ α) : Nat := t.entries.length

def isEmpty (t : Table κ α) : Bool := t.entries.isEmpty

theorem find?_insert (t : Table κ α) (key other : κ) (value : α) :
    (t.insert key value).find? other = if key = other then some value else t.find? other := by
  obtain ⟨entries⟩ := t
  simp only [find?, insert]
  induction entries with
  | nil => by_cases h : key = other <;> simp [setEntry, h]
  | cons entry rest ih =>
    unfold setEntry
    split
    · next he => by_cases h : key = other <;> simp [he, h]
    · next he =>
      by_cases ho : entry.1 = other
      · have hk : key ≠ other := fun hk => he (ho.trans hk.symm)
        simp [ho, hk]
      · simpa [List.find?_cons, ho] using ih

theorem find?_erase (t : Table κ α) (key other : κ) :
    (t.erase key).find? other = if key = other then none else t.find? other := by
  obtain ⟨entries⟩ := t
  simp only [find?, erase]
  induction entries with
  | nil => simp
  | cons entry rest ih =>
    by_cases he : entry.1 = key
    · rw [List.filter_cons_of_neg (by simp [he]), ih]
      by_cases h : key = other <;> simp [he, h]
    · rw [List.filter_cons_of_pos (by simp [he])]
      by_cases ho : entry.1 = other
      · have hk : key ≠ other := fun hk => he (ho.trans hk.symm)
        simp [ho, hk]
      · simp only [List.find?_cons, ho, decide_false]
        exact ih

end Table

end ShardOperator
