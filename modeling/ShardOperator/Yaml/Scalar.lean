import ShardOperator.Json.Reader
import ShardOperator.Yaml.Cursor

namespace ShardOperator.Yaml

inductive ScalarStyle where
  | plain
  | quoted
  | literal
  | folded
  deriving DecidableEq

/-- Blanks and line ends between two parts of a scalar. Once a line has ended, blanks do not
count. -/
structure Gap where
  blanks : List Char := []
  breaks : List Char := []
  broken : Bool := false

/-- How a text holds a gap: one line feed is a space, several are one less, and a line end that was
escaped is nothing. -/
def Gap.text (g : Gap) (escaped : Bool) : List Char :=
  if !g.broken then g.blanks
  else
    match escaped, g.breaks with
    | false, ['\n'] => [' ']
    | false, '\n' :: more => more
    | _, breaks => breaks

/-- Reads a gap. A tab before the column `indent` of a later line is refused. -/
def readGap (indent : Int) : Nat → Gap → Cursor → Option (Gap × Cursor)
  | 0, _, _ => none
  | steps + 1, g, c =>
    match c.rest with
    | [] => some (g, c)
    | x :: _ =>
      if isBlank x then
        if g.broken then
          if x = '\t' && c.column < indent then none else readGap indent steps g (c.skip 1)
        else readGap indent steps { g with blanks := g.blanks ++ [x] } (c.skip 1)
      else if isBreak x then
        readGap indent steps { g with breaks := g.breaks ++ [c.breakChar], broken := true }
          c.skipBreak
      else some (g, c)

/-- The character that a letter or mark names after a backslash. -/
def escapes : List (Char × Char) :=
  [('0', '\x00'), ('a', '\x07'), ('b', '\x08'), ('t', '\t'), ('\t', '\t'), ('n', '\n'),
   ('v', '\x0b'), ('f', '\x0c'), ('r', '\r'), ('e', '\x1b'), (' ', ' '), ('"', '"'), ('/', '/'),
   ('\\', '\\'), ('N', '\x85'), ('_', '\xa0'), ('L', '\u2028'), ('P', '\u2029')]

/-- The number of digits after a letter that names a character by number. -/
def hexWidth? : Char → Option Nat
  | 'x' => some 2
  | 'u' => some 4
  | 'U' => some 8
  | _ => none

def hexNumber? (digits : List Char) : Option Nat :=
  (digits.mapM Json.hexValue?).map (·.foldl (fun n d => n * 16 + d) 0)

/-- The character that is named after a backslash, and the length of its name. -/
def escape? : List Char → Option (Char × Nat)
  | [] => none
  | mark :: rest =>
    match hexWidth? mark with
    | none => (escapes.lookup mark).map (·, 1)
    | some width => do
      let n ← hexNumber? (rest.take width)
      if width ≤ rest.length ∧ (n < 0xD800 ∨ (0xDFFF < n ∧ n ≤ 0x10FFFF)) then
        some (Char.ofNat n, width + 1)
      else none

/-- The text up to the closing quote, read backwards into `done`. Inside of single quotes a quote is
written twice; inside of double ones there are escapes. -/
def quotedText (single : Bool) : Nat → List Char → Cursor → Option (String × Cursor)
  | 0, _, _ => none
  | steps + 1, done, c =>
    let join (g : Gap) (escaped : Bool) (c : Cursor) :=
      if c.atDocumentMark then none
      else quotedText single steps ((g.text escaped).reverse ++ done) c
    match c.rest with
    | [] => none
    | '\'' :: '\'' :: _ =>
      if single then quotedText single steps ('\'' :: done) (c.skip 2)
      else quotedText single steps ('\'' :: done) (c.skip 1)
    | x :: rest =>
      if x = (if single then '\'' else '"') then some (String.ofList done.reverse, c.skip 1)
      else if isBlank x || isBreak x then do
        let (g, c) ← readGap 0 (c.rest.length + 1) {} c
        join g false c
      else if x = '\\' && !single then
        if rest.head?.any isBreak then do
          let (g, c) ← readGap 0 (c.rest.length + 1) { broken := true } (c.skip 1).skipBreak
          join g true c
        else do
          let (x, width) ← escape? rest
          quotedText single steps (x :: done) (c.skip (width + 1))
      else quotedText single steps (x :: done) (c.skip 1)

/-- A scalar after its opening quote. -/
def quoted? (single : Bool) (c : Cursor) : Option (String × Cursor) :=
  quotedText single (c.rest.length + 1) [] c

def isBracket (c : Char) : Bool := ",[]\x7b\x7d".toList.contains c

/-- A plain scalar ends before a colon with a gap after it, and inside brackets before a bracket. -/
def plainEnds (flow : Bool) (c : Cursor) : Bool :=
  (c.sees ':' && c.gapAt 1) || (flow && c.seesAny isBracket)

/-- Inside brackets a colon may not stand before a bracket or a question mark. -/
def isStrayColon (flow : Bool) (c : Cursor) : Bool :=
  flow && c.sees ':' && c.seesAt 1 fun x => isBracket x || x = '?'

/-- The text of a plain scalar, read backwards into `done`, and whether its last line has ended. The
lines after the first one stand at the column `indent` at least, unless there are brackets around
them. -/
def plainText (flow : Bool) (indent : Int) :
    Nat → List Char → Cursor → Option (String × Bool × Cursor)
  | 0, _, _ => none
  | steps + 1, done, c =>
    match c.rest with
    | [] => some (String.ofList done.reverse, false, c)
    | x :: _ =>
      if isBlank x || isBreak x then do
        let (g, next) ← readGap indent (c.rest.length + 1) {} c
        let isDone := (!flow && next.column < indent) || next.atDocumentMark || next.atEnd ||
          next.sees '#' || (!isStrayColon flow next && plainEnds flow next)
        if isDone then some (String.ofList done.reverse, g.broken, next)
        else plainText flow indent steps ((g.text false).reverse ++ done) next
      else if isStrayColon flow c then none
      else if plainEnds flow c then some (String.ofList done.reverse, false, c)
      else plainText flow indent steps (x :: done) (c.skip 1)

def plain? (flow : Bool) (indent : Int) (c : Cursor) : Option (String × Bool × Cursor) :=
  plainText flow indent (c.rest.length + 1) [] c

/-- What a block scalar keeps of the line ends behind it. -/
inductive Chomping where
  | strip
  | clip
  | keep

/-- The header of a block scalar: a chomping mark and an indentation, in any order. -/
def blockHeader? (c : Cursor) : Option (Chomping × Option Nat × Cursor) :=
  let chomping? (c : Cursor) : Option Chomping :=
    if c.sees '+' then some .keep else if c.sees '-' then some .strip else none
  let increment? (c : Cursor) : Option Nat :=
    (c.rest.head?.filter Char.isDigit).map fun x => x.toNat - 48
  let read : Chomping × Option Nat × Cursor := match chomping? c, increment? c with
    | some chomping, _ =>
      let n? := increment? (c.skip 1)
      (chomping, n?, c.skip (if n?.isSome then 2 else 1))
    | none, some n =>
      match chomping? (c.skip 1) with
      | some chomping => (chomping, some n, c.skip 2)
      | none => (.clip, some n, c.skip 1)
    | none, none => (.clip, none, c)
  if read.2.1 = some 0 then none else some read

/-- The line ends before the next line of a block scalar, and the greatest column seen. The indented
column is not yet known as long as it is zero; a tab in front of it is refused. -/
def blockGap (indent : Nat) :
    Nat → Nat → List Char → Cursor → Option (Nat × List Char × Cursor)
  | 0, _, _, _ => none
  | steps + 1, deepest, breaks, c =>
    let spaces := (c.taken (· = ' ')).length
    let c := c.skip (if indent = 0 then spaces else min spaces (indent - c.column))
    let deepest := max deepest c.column
    if (indent = 0 || c.column < indent) && c.sees '\t' then none
    else if c.seesAny isBreak then
      blockGap indent steps deepest (breaks ++ [c.breakChar]) c.skipBreak
    else some (deepest, breaks, c)

/-- Where the text of a block scalar stands so far: its characters, the end of its last line, the
line ends after it, and whether the last line started with a blank. -/
structure BlockText where
  text : List Char := []
  ending : List Char := []
  breaks : List Char
  afterBlank : Bool := false

/-- In a folded scalar a line end between two lines that do not start with blanks is a space, and
nothing before further line ends. -/
def BlockText.join (t : BlockText) (folded blank : Bool) : List Char :=
  if folded && t.ending = ['\n'] && !t.afterBlank && !blank then
    t.text ++ (if t.breaks.isEmpty then [' '] else []) ++ t.breaks
  else t.text ++ t.ending ++ t.breaks

def BlockText.finish (t : BlockText) : Chomping → String
  | .strip => String.ofList t.text
  | .clip => String.ofList (t.text ++ t.ending)
  | .keep => String.ofList (t.text ++ t.ending ++ t.breaks)

/-- Reads the lines that stand at a column. -/
def blockLines (folded : Bool) (indent : Nat) :
    Nat → BlockText → Cursor → Option (BlockText × Cursor)
  | 0, _, _ => none
  | steps + 1, t, c =>
    if c.column = indent && !c.atEnd then do
      let blank := c.seesAny isBlank
      let text := t.join folded blank ++ c.taken (!isBreak ·)
      let c := c.skipWhile (!isBreak ·)
      let (ending, c) := if c.atEnd then ([], c) else ([c.breakChar], c.skipBreak)
      let (_, breaks, c) ← blockGap indent (c.rest.length + 1) 0 [] c
      blockLines folded indent steps { text, ending, breaks, afterBlank := blank } c
    else some (t, c)

/-- A block scalar after its mark. `outer` is the column of what it stands in, or below zero. -/
def block? (folded : Bool) (outer : Int) (c : Cursor) : Option (String × Cursor) := do
  let (chomping, increment?, c) ← blockHeader? c
  let c ← c.endLine?
  let given : Nat := match increment? with
    | some n => (max outer 0).toNat + n
    | none => 0
  let (deepest, breaks, c) ← blockGap given (c.rest.length + 1) 0 [] c
  let indent := if given = 0 then max deepest (max (outer + 1).toNat 1) else given
  let (t, c) ← blockLines folded indent (c.rest.length + 1) { breaks } c
  some (t.finish chomping, c)

end ShardOperator.Yaml
