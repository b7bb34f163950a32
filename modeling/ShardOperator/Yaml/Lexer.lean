import ShardOperator.Yaml.Token

namespace ShardOperator.Yaml

/-- A place that may turn out to be the start of a key, with the number of tokens before it. -/
structure KeyPlace where
  tokens : Nat
  /-- The block that the place stands in has to go on with a key here. -/
  required : Bool
  line : Nat
  column : Nat
  index : Nat

/-- A document that is read up to a place. -/
structure Lexer where
  cursor : Cursor
  tokens : Array Token := #[]
  /-- The columns of the open blocks, the innermost first. -/
  columns : List Nat := []
  /-- The last place for a key inside of each open bracket, the innermost first, and at last the one
  outside of all brackets. -/
  keys : List (Option KeyPlace) := [none]
  /-- A key may start at this place. -/
  keyAllowed : Bool := true

namespace Lexer

/-- The place is inside of brackets. -/
def flow (l : Lexer) : Bool := 1 < l.keys.length

/-- The column of the innermost block; outside of all blocks it is below zero. -/
def indent (l : Lexer) : Int :=
  match l.columns with
  | column :: _ => column
  | [] => -1

/-- Goes past blanks, comments and line ends. Where a key may start outside of brackets, tabs are
none of the blanks. The mark of an encoding may start a line; it takes a column. -/
def skipGap : Nat → Lexer → Lexer
  | 0, l => l
  | steps + 1, l =>
    let c := if l.cursor.column = 0 && l.cursor.sees '\ufeff' then l.cursor.skip 1 else l.cursor
    let tabs := l.flow || !l.keyAllowed
    let c := (c.skipWhile fun x => x = ' ' || (tabs && x = '\t')).skipComment
    if c.seesAny isBreak then
      skipGap steps { l with cursor := c.skipBreak, keyAllowed := l.keyAllowed || !l.flow }
    else { l with cursor := c }

/-- A key stands on one line and has at most so many bytes. -/
def maxKey : Nat := 1024

/-- Forgets the places that are too far away for a key, unless one of them has to be a key. -/
def dropFarKeys? (l : Lexer) : Option Lexer := do
  let keys ← l.keys.mapM fun key =>
    match key with
    | none => some none
    | some place =>
      if place.line < l.cursor.line || place.index + maxKey < l.cursor.index then
        if place.required then none else some none
      else some (some place)
  some { l with keys }

/-- Forgets the last place for a key, unless it has to be one. -/
def dropKey? (l : Lexer) : Option Lexer :=
  match l.keys with
  | some place :: rest => if place.required then none else some { l with keys := none :: rest }
  | _ => some l

/-- Notes the place, if a key may start here. -/
def noteKey? (l : Lexer) : Option Lexer :=
  if l.keyAllowed then do
    let l ← l.dropKey?
    let c := l.cursor
    let place : KeyPlace := {
      tokens := l.tokens.size, required := !l.flow && l.indent = c.column
      line := c.line, column := c.column, index := c.index }
    some { l with keys := some place :: l.keys.tail }
  else some l

def push (l : Lexer) (token : Token) : Lexer := { l with tokens := l.tokens.push token }

/-- Puts a token before those that came after the first `n`. -/
def insert (l : Lexer) (n : Nat) (token : Token) : Lexer :=
  { l with tokens := l.tokens.insertIdxIfInBounds n token }

/-- Opens a block at a column to the right of the innermost one, with its token after the first
`n`. -/
def openBlock (l : Lexer) (column n : Nat) (token : Token) : Lexer :=
  if !l.flow && l.indent < column then
    { l.insert n token with columns := column :: l.columns }
  else l

/-- Closes the blocks to the right of a column. -/
def closeBlocks (l : Lexer) (column : Int) : Lexer :=
  if l.flow then l
  else
    let closed := l.columns.takeWhile fun (x : Nat) => column < x
    { l with
      tokens := closed.foldl (fun tokens _ => tokens.push .blockEnd) l.tokens
      columns := l.columns.drop closed.length }

/-- Takes a token that is `n` characters long. A key may start after it or not. -/
def take (l : Lexer) (token : Token) (n : Nat) (keyAllowed : Bool) : Lexer :=
  { l.push token with cursor := l.cursor.skip n, keyAllowed }

/-- Takes a token up to a place; no key starts right after it. -/
def takeTo (l : Lexer) (token : Token) (cursor : Cursor) : Lexer :=
  { l.push token with cursor, keyAllowed := false }

def openBracket? (l : Lexer) (token : Token) : Option Lexer := do
  let l ← l.noteKey?
  some ({ l with keys := none :: l.keys }.take token 1 true)

def closeBracket? (l : Lexer) (token : Token) : Option Lexer := do
  let l ← l.dropKey?
  some ({ l with keys := if l.flow then l.keys.tail else l.keys }.take token 1 false)

/-- Outside of brackets, the mark of an item opens a block and stands where a key may. -/
def item? (l : Lexer) : Option Lexer := do
  let l ← if l.flow then some l
    else if l.keyAllowed then some (l.openBlock l.cursor.column l.tokens.size .blockListStart)
    else none
  some ((← l.dropKey?).take .item 1 true)

/-- A mark that stands for itself and opens a block outside of brackets. -/
def loneMark? (l : Lexer) (token : Token) : Option Lexer :=
  if l.flow then some (l.take token 1 false)
  else if l.keyAllowed then
    some ((l.openBlock l.cursor.column l.tokens.size .blockMapStart).take token 1 true)
  else none

def key? (l : Lexer) : Option Lexer := do (← l.dropKey?).loneMark? .key

/-- The mark of a value makes a key of what stands at the last place for one. -/
def value? (l : Lexer) : Option Lexer :=
  match l.keys with
  | some place :: rest =>
    let l := (l.insert place.tokens .key).openBlock place.column place.tokens .blockMapStart
    some ({ l with keys := none :: rest }.take .value 1 false)
  | _ => l.loneMark? .value

/-- A mark of a document, or a directive, closes all blocks. -/
def closeAll? (l : Lexer) : Option Lexer := do
  some { (← (l.closeBlocks (-1)).dropKey?) with keyAllowed := false }

def anchored? (l : Lexer) (token : String → Token) : Option Lexer := do
  let l ← l.noteKey?
  let (name, c) ← anchorName? l.cursor
  some (l.takeTo (token name) c)

def tagged? (l : Lexer) : Option Lexer := do
  let l ← l.noteKey?
  let (token, c) ← tag? l.flow l.cursor
  some (l.takeTo token c)

def block? (l : Lexer) (folded : Bool) : Option Lexer := do
  let l ← l.dropKey?
  let (text, cursor) ← Yaml.block? folded l.indent (l.cursor.skip 1)
  let style := if folded then ScalarStyle.folded else .literal
  some { l.push (.scalar style text) with cursor, keyAllowed := true }

def quoted? (l : Lexer) (single : Bool) : Option Lexer := do
  let l ← l.noteKey?
  let (text, c) ← Yaml.quoted? single (l.cursor.skip 1)
  some (l.takeTo (.scalar .quoted text) c)

/-- A key may start after a plain scalar only if its line has ended. -/
def plain? (l : Lexer) : Option Lexer := do
  let l ← l.noteKey?
  let (text, ended, cursor) ← Yaml.plain? l.flow (l.indent + 1) l.cursor
  some { l.push (.scalar .plain text) with cursor, keyAllowed := ended }

/-- A plain scalar does not start with a mark, but three of them may stand before other
characters. -/
def startsPlain (l : Lexer) (first : Char) : Bool :=
  let c := l.cursor
  (!c.gapAt 0 && !"-?:,[]\x7b\x7d#&*!|>'\"%@\x60".toList.contains first) ||
    (first = '-' && !c.seesAt 1 isBlank) ||
    (!l.flow && (first = '?' || first = ':') && !c.gapAt 1)

/-- Reads the next token, which starts with a character that is no blank. -/
def token? (l : Lexer) (first : Char) : Option Lexer :=
  let c := l.cursor
  if c.column = 0 && first = '%' then do
    let l ← l.closeAll?
    let (token, c) ← directive? c
    some (l.takeTo token c)
  else if c.atMark '-' then do some ((← l.closeAll?).take .documentStart 3 false)
  else if c.atMark '.' then do some ((← l.closeAll?).take .documentEnd 3 false)
  else
    match first with
    | '[' => l.openBracket? .listStart
    | '\x7b' => l.openBracket? .mapStart
    | ']' => l.closeBracket? .listEnd
    | '\x7d' => l.closeBracket? .mapEnd
    | ',' => do some ((← l.dropKey?).take .comma 1 true)
    | '*' => l.anchored? .alias
    | '&' => l.anchored? .anchor
    | '!' => l.tagged?
    | '\'' => l.quoted? true
    | '"' => l.quoted? false
    | _ =>
      if first = '-' && c.gapAt 1 then l.item?
      else if first = '?' && (l.flow || c.gapAt 1) then l.key?
      else if first = ':' && (l.flow || c.gapAt 1) then l.value?
      else if (first = '|' || first = '>') && !l.flow then l.block? (first = '>')
      else if l.startsPlain first then l.plain?
      else none

/-- Reads all tokens. Each of them takes a character at least. -/
def finish? : Nat → Lexer → Option (List Token)
  | 0, _ => none
  | steps + 1, l => do
    let l ← (l.skipGap (l.cursor.rest.length + 1)).dropFarKeys?
    let l := l.closeBlocks l.cursor.column
    match l.cursor.rest with
    | [] => (l.closeAll?).map (·.tokens.toList)
    | first :: _ => do finish? steps (← l.token? first)

end Lexer

def tokens? (text : String) : Option (List Token) :=
  let cs := text.toList
  if cs.all isAllowed then Lexer.finish? (cs.length + 1) { cursor := { rest := cs } } else none

end ShardOperator.Yaml
