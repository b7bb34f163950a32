import ShardOperator.Json.Fields
import ShardOperator.Number.Shortest
import ShardOperator.Text.Pieces

namespace ShardOperator

inductive Setting where
  | scalar (value : String)
  | vector (values : List String)
  deriving DecidableEq

namespace Setting

def isEmpty : Setting → Bool
  | .scalar value => value = ""
  | .vector values => values.isEmpty

def scalar? : Setting → Option String
  | .scalar value => some value
  | .vector _ => none

/-- A scalar has one value. -/
def values : Setting → List String
  | .scalar value => [value]
  | .vector values => values

def text : Setting → String
  | .scalar value => value
  | .vector values => "[" ++ Text.join "," values ++ "]"

/-- The text of a scalar. Integers of 64 signed bits keep their digits, all other numbers take the
text of the nearest double. -/
def scalarText? : Json → Option String
  | .str s => some s
  | .int n =>
    if -9223372036854775808 ≤ n ∧ n < 9223372036854775808 then some (toString n)
    else some (Double.ofInt n).text
  | .double x => some x.text
  | .bool b => some (if b then "true" else "false")
  | _ => none

def ofJson? : Json → Option Setting
  | .arr items => (items.mapM scalarText?).map .vector
  | value => (scalarText? value).map .scalar

def toJson : Setting → Json
  | .scalar value => .str value
  | .vector values => .ofTexts values

end Setting

end ShardOperator
