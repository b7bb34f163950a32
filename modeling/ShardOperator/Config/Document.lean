import ShardOperator.Json.Fields

namespace ShardOperator

/-- A form in which configuration is written down. Each reader gives none for a value that is not of
the form it reads. -/
class Document (δ : Type) where
  /-- The fields of a record with the declared ones, in the order written. -/
  record? : List String → δ → Option (List (String × δ))
  text? : δ → Option String
  bool? : δ → Option Bool
  /-- A whole number between the bounds, both included. -/
  int? : Int → Int → δ → Option Int
  list? : δ → Option (List δ)
  /-- A value that may be left out: nothing, where the value stands for that. -/
  option? : δ → Option (Option δ)

namespace Document

variable {δ : Type} [Document δ] {α : Type}

/-- A missing field takes the default. -/
def field (fields : List (String × δ)) (key : String) (default : α) (read : δ → Option α) :
    Option α :=
  match fields.lookup key with
  | none => some default
  | some value => read value

def optionalField (fields : List (String × δ)) (key : String) (read : δ → Option α) :
    Option (Option α) :=
  match fields.lookup key with
  | none => some none
  | some value => do
    match ← option? value with
    | none => some none
    | some value => (read value).map some

def nat? (limit : Nat) (value : δ) : Option Nat := (int? 0 (limit - 1) value).map Int.toNat

def int32? (value : δ) : Option Int32 := (int? (-2147483648) 2147483647 value).map Int32.ofInt

def texts? (value : δ) : Option (List String) := (list? value).bind (·.mapM text?)

end Document

instance : Document Json where
  record? := Json.record?
  text? := Json.text?
  bool? := Json.bool?
  int? low high value := value.int?.bind fun n => if low ≤ n ∧ n ≤ high then some n else none
  list? := Json.list? some
  option? value := if value = .null then some none else some (some value)

end ShardOperator
