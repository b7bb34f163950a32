import ShardOperator.Json.Basic
import ShardOperator.Number.Shortest

namespace ShardOperator.Json

def hexDigit (n : Nat) : Char := (Nat.digitChar n)

/-- Inside quotes the quote, the backslash and the control characters below U+0020 are escaped, and
every other character stands for itself. -/
def escapeChar (c : Char) : List Char :=
  match c with
  | '"' => ['\\', '"']
  | '\\' => ['\\', '\\']
  | '\x08' => ['\\', 'b']
  | '\x0c' => ['\\', 'f']
  | '\n' => ['\\', 'n']
  | '\r' => ['\\', 'r']
  | '\t' => ['\\', 't']
  | c =>
    if c.toNat < 0x20 then ['\\', 'u', '0', '0', hexDigit (c.toNat / 16), hexDigit (c.toNat % 16)]
    else [c]

def quoted (s : String) : String := String.ofList ('"' :: (s.toList.flatMap escapeChar ++ ['"']))

/-- The fewest digits that read back. Whole values keep a point, so that they stay apart from
integers; very small and very great ones are written with a power of ten. -/
def doubleText (x : Double) : String :=
  let d := x.shortest
  if -5 ≤ d.order ∧ d.order ≤ 15 then
    let text := x.text
    if text.toList.contains '.' then text else text ++ ".0"
  else x.signText ++ d.scientific

mutual

/-- The compact text of the value: no blanks, fields in their order. -/
def compact : Json → String
  | .null | .unreadable => "null"
  | .bool true => "true"
  | .bool false => "false"
  | .int n => toString n
  | .double x => doubleText x
  | .str s => quoted s
  | .arr items => "[" ++ compactItems items ++ "]"
  | .obj fields => "\x7b" ++ compactFields fields ++ "\x7d"

def compactItems : List Json → String
  | [] => ""
  | [item] => compact item
  | item :: rest => compact item ++ "," ++ compactItems rest

def compactFields : List (String × Json) → String
  | [] => ""
  | [(key, value)] => quoted key ++ ":" ++ compact value
  | (key, value) :: rest => quoted key ++ ":" ++ compact value ++ "," ++ compactFields rest

end

end ShardOperator.Json
