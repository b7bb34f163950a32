import ShardOperator.Json.Basic

namespace ShardOperator.Json

def isSpace (c : Char) : Bool := c = ' ' || c = '\t' || c = '\n' || c = '\r'

def skipSpace (cs : List Char) : List Char := cs.dropWhile isSpace

def hexValue? (c : Char) : Option Nat :=
  if '0' ≤ c ∧ c ≤ '9' then some (c.toNat - 48)
  else if 'a' ≤ c ∧ c ≤ 'f' then some (c.toNat - 87)
  else if 'A' ≤ c ∧ c ≤ 'F' then some (c.toNat - 55)
  else none

def hexUnit? : List Char → Option (Nat × List Char)
  | a :: b :: c :: d :: rest => do
    let a ← hexValue? a
    let b ← hexValue? b
    let c ← hexValue? c
    let d ← hexValue? d
    some (((a * 16 + b) * 16 + c) * 16 + d, rest)
  | _ => none

def unescape? : Char → Option Char
  | '"' => some '"'
  | '\\' => some '\\'
  | '/' => some '/'
  | 'b' => some '\x08'
  | 'f' => some '\x0c'
  | 'n' => some '\n'
  | 'r' => some '\r'
  | 't' => some '\t'
  | _ => none

/-- A `\u` escape after its `u`: one unit, or two that form a pair of surrogates. A surrogate that
stands alone is no character. -/
def unicodeEscape? (cs : List Char) : Option (Option Char × List Char) := do
  let (unit, rest) ← hexUnit? cs
  if unit < 0xD800 ∨ 0xDFFF < unit then some (some (Char.ofNat unit), rest)
  else if 0xDC00 ≤ unit then some (none, rest)
  else
    match rest with
    | '\\' :: 'u' :: more => do
      let (low, more) ← hexUnit? more
      if 0xDC00 ≤ low ∧ low ≤ 0xDFFF then
        some (some (Char.ofNat (0x10000 + (unit - 0xD800) * 0x400 + (low - 0xDC00))), more)
      else some (none, rest)
    | rest => some (none, rest)

/-- The text up to the closing quote, read backwards into `done`; there is none if one of its
escapes is no character. Raw control characters are refused. Every step takes a character, so the
length of the input bounds the steps. -/
def stringBody : Nat → Option (List Char) → List Char → Option (Option String × List Char)
  | 0, _, _ => none
  | _ + 1, _, [] => none
  | steps + 1, done, c :: rest =>
    if c = '"' then some (done.map (String.ofList ·.reverse), rest)
    else if c = '\\' then
      match rest with
      | 'u' :: rest => do
        let (c, rest) ← unicodeEscape? rest
        stringBody steps (c.bind fun c => done.map (c :: ·)) rest
      | e :: rest => do
        let c ← unescape? e
        stringBody steps (done.map (c :: ·)) rest
      | [] => none
    else if c.toNat < 0x20 then none
    else stringBody steps (done.map (c :: ·)) rest

/-- The text after its opening quote. -/
def string? (cs : List Char) : Option (Option String × List Char) :=
  stringBody (cs.length + 1) (some []) cs

def digitsValue (digits : List Char) : Nat :=
  digits.foldl (fun n c => n * 10 + (c.toNat - 48)) 0

/-- As many leading digits as fit 64 bits, and the digits after them. -/
def fitDigits : Nat → List Char → Nat × List Char
  | n, [] => (n, [])
  | n, c :: rest =>
    if n * 10 + (c.toNat - 48) < UInt64.size then fitDigits (n * 10 + (c.toNat - 48)) rest
    else (n, c :: rest)

/-- The value of a number with a fraction, an exponent or too many digits. Digits that no longer fit
64 bits are dropped, those before the point raising the exponent. -/
def wideNumber? (negative : Bool) (whole fraction : List Char) (exponent : Int) : Option Double :=
  let (significand, dropped) := fitDigits 0 whole
  let (significand, unread) := fitDigits significand fraction
  let point : Int := dropped.length - (fraction.length - unread.length : Nat)
  if significand = 0 then some ⟨negative, 0, -1074⟩
  else Double.ofDecimal? negative significand (point + exponent)

/-- A number: no leading zeros, digits on both sides of a point. An integer outside of 64 bits is a
double, and so is `-0`. A number beyond the range of doubles has no value. -/
def number? (cs : List Char) : Option (Json × List Char) := do
  let (negative, cs) := match cs with
    | '-' :: rest => (true, rest)
    | cs => (false, cs)
  let whole := cs.takeWhile Char.isDigit
  let rest := cs.dropWhile Char.isDigit
  if whole.isEmpty || (whole.head? == some '0' && whole.length > 1) then none
  else
    let (point, fraction, rest) := match rest with
      | '.' :: rest => (true, rest.takeWhile Char.isDigit, rest.dropWhile Char.isDigit)
      | rest => (false, [], rest)
    if point && fraction.isEmpty then none
    else
      let (marked, sign, digits, rest) := match rest with
        | 'e' :: '-' :: rest | 'E' :: '-' :: rest =>
          (true, -1, rest.takeWhile Char.isDigit, rest.dropWhile Char.isDigit)
        | 'e' :: '+' :: rest | 'E' :: '+' :: rest | 'e' :: rest | 'E' :: rest =>
          (true, (1 : Int), rest.takeWhile Char.isDigit, rest.dropWhile Char.isDigit)
        | rest => (false, 1, [], rest)
      if marked && digits.isEmpty then none
      else
        let n := digitsValue whole
        let fits := if negative then 0 < n && 2 * n ≤ UInt64.size else n < UInt64.size
        if !point && !marked && fits then
          some (.int (if negative then -n else n), rest)
        else
          let x := wideNumber? negative whole fraction (sign * digitsValue digits)
          some ((x.map .double).getD .unreadable, rest)

mutual

/-- One value after blanks. What lies deeper than `depth` levels has no value. The length of the
input bounds the steps. -/
def value? (depth : Nat) : Nat → List Char → Option (Json × List Char)
  | 0, _ => none
  | steps + 1, cs =>
    match skipSpace cs with
    | 'n' :: 'u' :: 'l' :: 'l' :: rest => some (.null, rest)
    | 't' :: 'r' :: 'u' :: 'e' :: rest => some (.bool true, rest)
    | 'f' :: 'a' :: 'l' :: 's' :: 'e' :: rest => some (.bool false, rest)
    | '"' :: rest => (string? rest).map fun r => ((r.1.map .str).getD .unreadable, r.2)
    | '[' :: rest => do
      let (items, rest) ← match skipSpace rest with
        | ']' :: rest => some ([], rest)
        | rest => items? (depth - 1) steps rest
      some (if depth = 0 then .unreadable else .arr items, rest)
    | '\x7b' :: rest => do
      let (fields, rest) ← match skipSpace rest with
        | '\x7d' :: rest => some (some [], rest)
        | rest => fields? (depth - 1) steps rest
      some (if depth = 0 then .unreadable else (fields.map .obj).getD .unreadable, rest)
    | rest => number? rest

def items? (depth : Nat) : Nat → List Char → Option (List Json × List Char)
  | 0, _ => none
  | steps + 1, cs => do
    let (item, rest) ← value? depth steps cs
    match skipSpace rest with
    | ']' :: rest => some ([item], rest)
    | ',' :: rest =>
      let (more, rest) ← items? depth steps rest
      some (item :: more, rest)
    | _ => none

/-- The fields up to the closing brace, as often as they are written; there are none if one of the
keys is no text. -/
def fields? (depth : Nat) : Nat → List Char → Option (Option (List (String × Json)) × List Char)
  | 0, _ => none
  | steps + 1, cs =>
    match skipSpace cs with
    | '"' :: rest => do
      let (key, rest) ← string? rest
      match skipSpace rest with
      | ':' :: rest =>
        let (value, rest) ← value? depth steps rest
        let first := key.map fun key => (key, value)
        match skipSpace rest with
        | '\x7d' :: rest => some (first.map ([·]), rest)
        | ',' :: rest =>
          let (more, rest) ← fields? depth steps rest
          some (first.bind fun first => more.map (first :: ·), rest)
        | _ => none
      | _ => none
    | _ => none

end

/-- Values nested deeper than this are not read. -/
def maxDepth : Nat := 127

/-- The document's one value as it is written, with nothing but blanks around it. -/
def written? (text : String) : Option Json := do
  let cs := text.toList
  let (value, rest) ← value? maxDepth (cs.length + 1) cs
  if (skipSpace rest).isEmpty then some value else none

mutual

/-- The value, if every part of it has one. Of two fields with one key the later one stays, in the
place of the earlier one. -/
def settled? : Json → Option Json
  | .unreadable => none
  | .arr items => (settledItems? items).map .arr
  | .obj fields => (settledFields? [] fields).map .obj
  | value => some value

def settledItems? : List Json → Option (List Json)
  | [] => some []
  | item :: rest => do
    let item ← settled? item
    let rest ← settledItems? rest
    some (item :: rest)

def settledFields? (done : List (String × Json)) :
    List (String × Json) → Option (List (String × Json))
  | [] => some done
  | (key, value) :: rest => do
    let value ← settled? value
    settledFields? (setField key value done) rest

end

/-- The value of a document that has one in every part. -/
def parse? (text : String) : Option Json := (written? text).bind settled?

end ShardOperator.Json
