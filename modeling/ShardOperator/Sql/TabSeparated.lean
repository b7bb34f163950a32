import ShardOperator.Text.Pieces

namespace ShardOperator.Sql

/-- The rows of a result, each with the texts of its columns. -/
abbrev Rows := List (List String)

namespace TabSeparated

/-- What a character means behind a backslash. -/
def meaning : Char → Char
  | 't' => '\t'
  | 'n' => '\n'
  | 'r' => '\r'
  | '0' => '\x00'
  | 'b' => '\x08'
  | 'f' => '\x0c'
  | c => c

/-- The text that a written field stands for; a backslash at the end stands for itself. -/
def unescape : List Char → List Char
  | [] => []
  | ['\\'] => ['\\']
  | '\\' :: c :: rest => meaning c :: unescape rest
  | c :: rest => c :: unescape rest

def parseRow (line : List Char) : List String :=
  (Text.splitChars '\t' line).map fun field => String.ofList (unescape field)

/-- Each line that is not empty is a row, and tabs part its fields. -/
def parse (body : String) : Rows :=
  ((Text.lineChars body.toList).filter (!·.isEmpty)).map parseRow

end TabSeparated

def firstColumn (rows : Rows) : List String := rows.filterMap (·.head?)

end ShardOperator.Sql
