import ShardOperator.Json.Basic
import ShardOperator.Text.Pieces

namespace ShardOperator.Json

/-- A key in a pointer: a slash and a tilde are each written with a tilde before a digit. -/
def pointerKey : List Char → List Char
  | '~' :: '1' :: rest => '/' :: pointerKey rest
  | '~' :: '0' :: rest => '~' :: pointerKey rest
  | c :: rest => c :: pointerKey rest
  | [] => []

/-- A position is written without zeros in front. -/
def position? (key : String) : Option Nat :=
  if key.toList.all Char.isDigit ∧ (key = "0" ∨ key.toList.head? ≠ some '0') then key.toNat?
  else none

/-- The value under a key of an object, or at a position of a list. -/
def child? (key : String) : Json → Option Json
  | .obj fields => fields.lookup key
  | .arr items => (position? key).bind (items[·]?)
  | _ => none

/-- The value at a pointer: nothing for the value itself, and a slash before every key. -/
def pointer? (pointer : String) (value : Json) : Option Json :=
  match Text.splitChars '/' pointer.toList with
  | [] :: keys =>
    keys.foldlM (fun value key => value.child? (String.ofList (pointerKey key))) value
  | _ => none

end ShardOperator.Json
