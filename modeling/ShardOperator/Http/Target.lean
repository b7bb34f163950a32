import ShardOperator.Text.Pieces

namespace ShardOperator.Http

/-- What a request is for: a path and the parts of a query. -/
structure Target where
  path : String
  query : List String := []
  deriving DecidableEq

/-- A target holds no blanks, no controls, and none of a few marks, which are not the same in a path
and in a query. -/
def isTargetChar (c : Char) : Bool := 0x20 < c.toNat && c != '\x7f' && c != '<' && c != '>'

def isPathChar (c : Char) : Bool := isTargetChar c && c != '\x60'

def isQueryChar (c : Char) : Bool := isTargetChar c && c != '"'

/-- The greatest number of bytes in a written target. -/
def maxTarget : Nat := 65534

/-- Reads a written target. What follows a question mark is a query, and what follows a hash sign is
never sent. -/
def Target.ofText? (s : String) : Option Target :=
  let sent := s.toList.takeWhile (· != '#')
  let path := sent.takeWhile (· != '?')
  let query := (sent.dropWhile (· != '?')).drop 1
  if s.utf8ByteSize ≤ maxTarget && path.all isPathChar && query.all isQueryChar then
    let parts := (Text.splitChars '&' query).filter (!·.isEmpty)
    some { path := String.ofList path, query := parts.map String.ofList }
  else none

def isPlain (c : Char) : Bool :=
  c.isAlphanum || c == '*' || c == '-' || c == '.' || c == '_'

def hexDigits (b : UInt8) : List Char :=
  (Nat.toDigits 16 (256 + b.toNat)).tail.map Char.toUpper

/-- How a query says a character: letters, digits and four marks stand for themselves, a space is a
plus sign, and the rest is given by its bytes. -/
def encodeChar (c : Char) : List Char :=
  if isPlain c then [c]
  else if c = ' ' then ['+']
  else (String.singleton c).toUTF8.toList.flatMap fun b => '%' :: hexDigits b

def encodeQuery (s : String) : String := String.ofList (s.toList.flatMap encodeChar)

end ShardOperator.Http
