import ShardOperator.Json.Fields

namespace ShardOperator.Json

/-! Reading that never fails: what is missing, or not of the kind asked for, is empty. -/

def part (j : Json) (key : String) : Json := (j.field? key).getD .null

/-- A part that is `null` is missing. -/
def part? (j : Json) (key : String) : Option Json :=
  match j.field? key with
  | some .null => none
  | other => other

def natural (j : Json) : Nat := (j.nat? UInt64.size).getD 0

def textPart (j : Json) (key : String) : String := ((part j key).text?).getD ""

def natPart (j : Json) (key : String) : Nat := (part j key).natural

def boolPart (j : Json) (key : String) : Bool := ((part j key).bool?).getD false

def intPart (j : Json) (key : String) : Int := ((part j key).int?).getD 0

def items : Json → List Json
  | .arr values => values
  | _ => []

def listPart (j : Json) (key : String) : List Json := items (part j key)

def texts (j : Json) : List String := (items j).filterMap text?

def textsPart (j : Json) (key : String) : List String := texts (part j key)

end ShardOperator.Json
