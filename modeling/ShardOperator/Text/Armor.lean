import ShardOperator.Text.Base64
import ShardOperator.Text.Pieces

/-!
Armored text: blocks of Base64 lines between a line `-----BEGIN label-----` and a line
`-----END label-----`. Lines outside of blocks are ignored.
-/

namespace ShardOperator.Armor

structure Block where
  label : String
  bytes : List UInt8

/-- The labels of blocks that are read; blocks with others are skipped. -/
def labels : List String :=
  ["CERTIFICATE", "PUBLIC KEY", "RSA PRIVATE KEY", "PRIVATE KEY", "EC PRIVATE KEY", "X509 CRL",
   "CERTIFICATE REQUEST", "ECHCONFIG"]

/-- A line ends at a line feed or at a carriage return. -/
def lines (s : String) : List String :=
  (Text.splitChars '\n' (s.toList.map fun c => if c = '\r' then '\n' else c)).map String.ofList

/-- The label of a line that opens a block, which five hyphens end; a line that starts like one and
ends otherwise is refused. -/
def openingLabel? (line : String) : Option (Option String) :=
  (Text.dropLead? "-----BEGIN " line).map fun rest =>
    let marks := rest.toList.reverse.takeWhile fun c => c == ' ' || c == '-'
    if marks.count '-' = 5 then
      let ending := (marks.reverse.dropWhile (· == ' ')).length
      some (String.ofList (rest.toList.take (rest.length - ending)))
    else none

/-- Reads the lines from one on; `open?` is the label of the block that has been opened, and
`digits` are its lines so far. A line that opens a block within another one only changes the label.
There are no blocks if the text breaks off inside one, or if one that is read holds no Base64. -/
def readLines (open? : Option String) (digits : List Char) : List String → Option (List Block)
  | [] => if open?.isNone then some [] else none
  | line :: rest =>
    match openingLabel? line, open? with
    | some none, _ => none
    | some (some label), _ => readLines (some label) digits rest
    | none, none => readLines none digits rest
    | none, some label =>
      if Text.startsWith ("-----END " ++ label ++ "-----") line then
        if labels.contains label then do
          let bytes ← Base64.decodeLoose? digits
          some (⟨label, bytes⟩ :: (← readLines none [] rest))
        else readLines none [] rest
      else readLines (some label) (digits ++ line.toList) rest

def blocks? (s : String) : Option (List Block) := readLines none [] (lines s)

end ShardOperator.Armor
