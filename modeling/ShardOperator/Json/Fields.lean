import ShardOperator.Json.Basic
import ShardOperator.Data.SortedMap

namespace ShardOperator

/-- The named values of a record. -/
abbrev Fields := List (String × Json)

namespace Json

def text? : Json → Option String
  | .str s => some s
  | _ => none

def bool? : Json → Option Bool
  | .bool b => some b
  | _ => none

def int? : Json → Option Int
  | .int n => some n
  | _ => none

def int32? (value : Json) : Option Int32 := do
  let n ← value.int?
  if -2147483648 ≤ n ∧ n < 2147483648 then some (Int32.ofInt n) else none

def int64? (value : Json) : Option Int64 := do
  let n ← value.int?
  if -9223372036854775808 ≤ n ∧ n < 9223372036854775808 then some (Int64.ofInt n) else none

def nat? (limit : Nat) (value : Json) : Option Nat := do
  let n ← value.int?
  if 0 ≤ n ∧ n < limit then some n.toNat else none

def uint16? (value : Json) : Option UInt16 := (value.nat? UInt16.size).map UInt16.ofNat

def uint32? (value : Json) : Option UInt32 := (value.nat? UInt32.size).map UInt32.ofNat

def uint64? (value : Json) : Option UInt64 := (value.nat? UInt64.size).map UInt64.ofNat

def list? {α : Type} (read : Json → Option α) : Json → Option (List α)
  | .arr items => items.mapM read
  | _ => none

def map? {α : Type} (read : Json → Option α) : Json → Option (SortedMap α)
  | .obj fields =>
    (fields.mapM fun f => (read f.2).map (f.1, ·)).map SortedMap.ofList
  | _ => none

/-- Any value but an object is refused. -/
def object? : Json → Option Fields
  | .obj fields => some fields
  | _ => none

/-- A record is an object that gives each declared field at most once, or a list that gives the
declared fields in order and may stop early. -/
def record? (declared : List String) : Json → Option Fields
  | .obj fields =>
    if ((fields.map (·.1)).filter declared.contains).Nodup then some fields else none
  | .arr items => if items.length ≤ declared.length then some (declared.zip items) else none
  | _ => none

def ofInt32 (n : Int32) : Json := .int n.toInt

def ofInt64 (n : Int64) : Json := .int n.toInt

def ofNat (n : Nat) : Json := .int n

def ofTexts (items : List String) : Json := .arr (items.map .str)

def ofList {α : Type} (write : α → Json) (items : List α) : Json := .arr (items.map write)

def ofOption {α : Type} (write : α → Json) : Option α → Json
  | some value => write value
  | none => .null

def ofMap {α : Type} (write : α → Json) (map : SortedMap α) : Json :=
  .obj (map.entries.map fun e => (e.1, write e.2))

end Json

namespace Fields

variable {α : Type}

/-- The last value under a key. Every value under the key has to be one of the field. -/
def last? (read : Json → Option α) (key : String) : Fields → Option (Option α)
  | [] => some none
  | field :: rest =>
    if field.1 = key then do
      let value ← read field.2
      let later ← last? read key rest
      some (later.or (some value))
    else last? read key rest

def required (fields : Fields) (key : String) (read : Json → Option α) : Option α :=
  (fields.last? read key).bind id

/-- Reads a field that may be absent, which `null` says. -/
def orNull (read : Json → Option α) : Json → Option (Option α)
  | .null => some none
  | value => (read value).map some

/-- A missing field and `null` are both the absent value. -/
def optional (fields : Fields) (key : String) (read : Json → Option α) : Option (Option α) :=
  (fields.last? (orNull read) key).map (·.bind id)

/-- A missing field takes the default; `null` has to be a value of the field. -/
def defaulted (fields : Fields) (key : String) (default : α) (read : Json → Option α) : Option α :=
  (fields.last? read key).map (·.getD default)

/-- A missing field and `null` both take the empty value. -/
def lenient (fields : Fields) (key : String) (empty : α) (read : Json → Option α) : Option α :=
  (fields.optional key read).map (·.getD empty)

/-- A given field has to hold just this text. -/
def named (fields : Fields) (key text : String) : Option Unit :=
  fields.defaulted key () fun value => if value = .str text then some () else none

end Fields

end ShardOperator
