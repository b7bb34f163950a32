namespace ShardOperator.Yaml

/-- A space or a tab. -/
def isBlank (c : Char) : Bool := c = ' ' || c = '\t'

/-- What ends a line. -/
def isBreak (c : Char) : Bool :=
  c = '\n' || c = '\r' || c = '\x85' || c = '\u2028' || c = '\u2029'

/-- The characters of names. -/
def isWordChar (c : Char) : Bool := c.isAlphanum || c = '_' || c = '-'

/-- A document holds no controls but tabs and line ends, and no code point that is no character. -/
def isAllowed (c : Char) : Bool :=
  c = '\t' || c = '\n' || c = '\r' || c = '\x85' || (0x20 ≤ c.toNat && c.toNat ≤ 0x7E) ||
    (0xA0 ≤ c.toNat && c.toNat ≤ 0xFFFD) || 0x10000 ≤ c.toNat

/-- A place in a document: what follows, and where it stands. Lines and columns count from zero, and
`index` counts the bytes before the place. -/
structure Cursor where
  rest : List Char
  line : Nat := 0
  column : Nat := 0
  index : Nat := 0

namespace Cursor

def atEnd (c : Cursor) : Bool := c.rest.isEmpty

/-- The next character is this one. -/
def sees (c : Cursor) (x : Char) : Bool := c.rest.head? = some x

/-- The next character is there and is of a class. -/
def seesAny (c : Cursor) (p : Char → Bool) : Bool := c.rest.head?.any p

/-- What stands `n` characters ahead is of a class. -/
def seesAt (c : Cursor) (n : Nat) (p : Char → Bool) : Bool := c.rest[n]?.any p

/-- What stands `n` characters ahead is a blank, a line end, or the end of the document. -/
def gapAt (c : Cursor) (n : Nat) : Bool := c.rest[n]?.all fun x => isBlank x || isBreak x

/-- The next character is a line end, or there is none. -/
def lineDone (c : Cursor) : Bool := c.rest.head?.all isBreak

/-- The index of the place `n` characters ahead. -/
def indexAt (c : Cursor) (n : Nat) : Nat :=
  (c.rest.take n).foldl (fun index x => index + x.utf8Size) c.index

/-- Goes past characters that do not end lines. -/
def skip (c : Cursor) (n : Nat) : Cursor :=
  { c with rest := c.rest.drop n, column := c.column + n, index := c.indexAt n }

/-- Goes past a line end; a carriage return and a line feed are one. -/
def skipBreak (c : Cursor) : Cursor :=
  let n := if c.sees '\r' && c.seesAt 1 (· = '\n') then 2 else 1
  { rest := c.rest.drop n, line := c.line + 1, column := 0, index := c.indexAt n }

/-- How a text holds the next line end: the separators of lines and of paragraphs stand for
themselves, and all others for a line feed. -/
def breakChar (c : Cursor) : Char :=
  match c.rest with
  | '\u2028' :: _ => '\u2028'
  | '\u2029' :: _ => '\u2029'
  | _ => '\n'

def taken (c : Cursor) (p : Char → Bool) : List Char := c.rest.takeWhile p

/-- Goes past all characters of a class that holds no line ends. -/
def skipWhile (c : Cursor) (p : Char → Bool) : Cursor := c.skip (c.taken p).length

def skipBlanks (c : Cursor) : Cursor := c.skipWhile isBlank

/-- A comment ends with its line. -/
def skipComment (c : Cursor) : Cursor := if c.sees '#' then c.skipWhile (!isBreak ·) else c

/-- At the start of a line, a mark that starts or ends a document: three times the same character,
and a gap. -/
def atMark (c : Cursor) (x : Char) : Bool :=
  c.column = 0 && c.rest.take 3 = [x, x, x] && c.gapAt 3

def atDocumentMark (c : Cursor) : Bool := c.atMark '-' || c.atMark '.'

/-- What follows the line, of which nothing but blanks and a comment is left. -/
def endLine? (c : Cursor) : Option Cursor :=
  let c := c.skipBlanks.skipComment
  if c.atEnd then some c else if c.lineDone then some c.skipBreak else none

end Cursor

end ShardOperator.Yaml
