import ShardOperator.Yaml.Scalar

namespace ShardOperator.Yaml

/-- What a document is made of. The indentation of blocks is told by tokens of its own. -/
inductive Token where
  | version (major minor : Nat)
  | tagHandle (handle lead : String)
  | documentStart
  | documentEnd
  | blockListStart
  | blockMapStart
  | blockEnd
  | listStart
  | listEnd
  | mapStart
  | mapEnd
  | item
  | comma
  | key
  | value
  | alias (name : String)
  | anchor (name : String)
  | tag (handle suffix : String)
  | scalar (style : ScalarStyle) (text : String)
  deriving DecidableEq

/-- The number of bytes that a character has whose first byte this is. -/
def byteCount? (first : Nat) : Option Nat :=
  if first < 0x80 then some 1
  else if 0xC0 ≤ first ∧ first < 0xE0 then some 2
  else if 0xE0 ≤ first ∧ first < 0xF0 then some 3
  else if 0xF0 ≤ first ∧ first < 0xF8 then some 4
  else none

/-- A byte that is written with two hexadecimal digits after a percent sign. -/
def escapedByte? (c : Cursor) : Option (Nat × Cursor) :=
  if c.sees '%' && 3 ≤ c.rest.length then
    (hexNumber? ((c.rest.drop 1).take 2)).map (·, c.skip 3)
  else none

/-- The bytes of a character after the first one. -/
def laterBytes? : Nat → Cursor → Option (List Nat × Cursor)
  | 0, c => some ([], c)
  | n + 1, c => do
    let (byte, c) ← escapedByte? c
    if 0x80 ≤ byte ∧ byte < 0xC0 then
      let (more, c) ← laterBytes? n c
      some (byte :: more, c)
    else none

/-- The characters of a tag. Only a tag that stands alone holds commas and brackets. -/
def isTagChar (alone : Bool) (c : Char) : Bool :=
  isWordChar c || ";/?:@&=+$.%!~*'()".toList.contains c || (alone && ",[]".toList.contains c)

/-- The characters of a tag, each byte that is escaped as one of them. -/
def tagChars? (alone : Bool) : Nat → Cursor → Option (List Char × Cursor)
  | 0, _ => none
  | steps + 1, c =>
    match c.rest with
    | [] => some ([], c)
    | x :: _ =>
      if !isTagChar alone x then some ([], c)
      else if x = '%' then do
        let (first, c) ← escapedByte? c
        let (later, c) ← laterBytes? ((← byteCount? first) - 1) c
        let (more, c) ← tagChars? alone steps c
        some ((first :: later).map Char.ofNat ++ more, c)
      else do
        let (more, c) ← tagChars? alone steps (c.skip 1)
        some (x :: more, c)

def tagText? (alone : Bool) (c : Cursor) : Option (List Char × Cursor) :=
  tagChars? alone (c.rest.length + 1) c

/-- The text of a tag handle: an exclamation mark, and perhaps a name with another one. -/
def handle? (c : Cursor) : Option (List Char × Cursor) :=
  if c.sees '!' then
    let name := (c.skip 1).taken isWordChar
    let next := c.skip (1 + name.length)
    some (if next.sees '!' then ('!' :: name ++ ['!'], next.skip 1) else ('!' :: name, next))
  else none

/-- A tag: written out between angle brackets, or a handle with a suffix. -/
def tag? (flow : Bool) (c : Cursor) : Option (Token × Cursor) := do
  let (token, c) ←
    if c.seesAt 1 (· = '<') then do
      let (text, c) ← tagText? true (c.skip 2)
      if c.sees '>' ∧ !text.isEmpty then
        some (Token.tag "" (String.ofList text), c.skip 1)
      else none
    else do
      let (handle, c) ← handle? c
      let (text, c) ← tagText? false c
      if 1 < handle.length ∧ handle.getLast? = some '!' then
        if text.isEmpty then none
        else some (Token.tag (String.ofList handle) (String.ofList text), c)
      else
        let suffix := handle.drop 1 ++ text
        if suffix.isEmpty then some (Token.tag "" "!", c)
        else some (Token.tag "!" (String.ofList suffix), c)
  if (flow && c.sees ',') || c.gapAt 0 then some (token, c) else none

/-- The name after the mark of an anchor or of an alias. -/
def anchorName? (c : Cursor) : Option (String × Cursor) :=
  let name := (c.skip 1).taken isWordChar
  let c := c.skip (1 + name.length)
  if !name.isEmpty && (c.gapAt 0 || c.seesAny "?:,]\x7d%@\x60".toList.contains) then
    some (String.ofList name, c)
  else none

/-- A part of a version has nine digits at most. -/
def versionPart? (c : Cursor) : Option (Nat × Cursor) :=
  let digits := c.taken Char.isDigit
  if digits.isEmpty || 9 < digits.length then none
  else some (Json.digitsValue digits, c.skip digits.length)

/-- What a document says of itself before it starts: the version, or what a tag handle stands
for. -/
def directive? (c : Cursor) : Option (Token × Cursor) := do
  let name := (c.skip 1).taken isWordChar
  let c := c.skip (1 + name.length)
  if !c.gapAt 0 then none
  else
    let c := c.skipBlanks
    if name = "YAML".toList then
      let (major, c) ← versionPart? c
      let (minor, c) ← if c.sees '.' then versionPart? (c.skip 1) else none
      some (.version major minor, ← c.endLine?)
    else if name = "TAG".toList then
      let (handle, c) ← handle? c
      if (handle = ['!'] ∨ (1 < handle.length ∧ handle.getLast? = some '!')) ∧
          c.seesAny isBlank then
        let (lead, c) ← tagText? true c.skipBlanks
        if lead.isEmpty || !c.gapAt 0 then none
        else some (.tagHandle (String.ofList handle) (String.ofList lead), ← c.endLine?)
      else none
    else none

end ShardOperator.Yaml
