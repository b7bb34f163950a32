import ShardOperator.Json.Reader
import ShardOperator.Pattern.Basic
import ShardOperator.Text.Alphanumeric
import ShardOperator.Text.Blank
import ShardOperator.Text.Pieces

/-!
Reading of regular expressions that hold no closing brace behind an opening one. Whatever has to be
written with braces, such as a count of repetitions, is left open and refused.
-/

namespace ShardOperator.Pattern

/-- Text under reading. Where the pattern is spaced, blanks and comments count for nothing. -/
structure Reading where
  rest : List Char
  spaced : Bool := false
  /-- The names of groups so far. -/
  names : List String := []

/-- What follows blanks and comments. A comment ends with its line. -/
def dropSpace (comment : Bool) : List Char → List Char
  | [] => []
  | c :: rest =>
    if comment then dropSpace (c ≠ '\n') rest
    else if Text.isBlank c then dropSpace false rest
    else if c = '#' then dropSpace true rest
    else c :: rest

namespace Reading

def sees (r : Reading) (c : Char) : Bool := r.rest.head? = some c

def drop (r : Reading) (n : Nat) : Reading := { r with rest := r.rest.drop n }

def skipSpace (r : Reading) : Reading :=
  if r.spaced then { r with rest := dropSpace false r.rest } else r

/-- Goes past a character and the space behind it. -/
def step (r : Reading) : Reading := (r.drop 1).skipSpace

/-- The character behind the next one. Space between them counts for nothing, and neither does a
mark that would begin a comment. -/
def second? (r : Reading) : Option Char :=
  let rest := r.rest.drop 1
  if r.spaced then
    match rest.dropWhile Text.isBlank with
    | '#' :: rest => (rest.dropWhile Text.isBlank).head?
    | rest => rest.head?
  else rest.head?

end Reading

/-! Characters and classes -/

/-- The number that so many hexadecimal digits make. -/
def hexNumber? : (digits value : Nat) → Reading → Option (Nat × Reading)
  | 0, value, r => some (value, r)
  | digits + 1, value, r => do
    hexNumber? digits (value * 16 + (← Json.hexValue? (← r.rest.head?))) r.step

/-- A character by its number. -/
def numbered? (digits : Nat) (r : Reading) : Option (Pattern × Reading) := do
  let (n, r) ← hexNumber? digits 0 r
  if n.isValidChar then some (letter ⟨Char.ofNat n, digits = 2⟩, r) else none

/-- A Unicode category by its letter. -/
def category? (r : Reading) : Option (Pattern × Reading) := do
  let c ← r.rest.head?
  if c = '\\' || c = '\x7b' then none else some (set (.category c), r.step)

/-- The control characters that have a letter. -/
def controls : List (Char × Char) :=
  [('a', '\x07'), ('f', '\x0c'), ('t', '\t'), ('n', '\n'), ('r', '\r'), ('v', '\x0b')]

/-- What a letter behind a backslash stands for, or any other ASCII character but a digit. -/
def escaped? (r : Reading) : Option (Pattern × Reading) := do
  let c ← r.rest.head?
  match c with
  | 'x' => numbered? 2 r.step
  | 'u' => numbered? 4 r.step
  | 'U' => numbered? 8 r.step
  | 'p' | 'P' => category? r.step
  | 'd' | 's' | 'w' => some (set (.named false), r.drop 1)
  | 'D' | 'S' | 'W' => some (set (.named true), r.drop 1)
  | 'A' | 'z' => some (place false, r.drop 1)
  | 'b' | 'B' | '<' | '>' => some (place true, r.drop 1)
  | c =>
    match controls.lookup c with
    | some control => some (letter ⟨control, false⟩, r.drop 1)
    | none =>
      if c.isAlphanum || 0x80 ≤ c.toNat then none else some (letter ⟨c, false⟩, r.drop 1)

/-- A character between brackets, or what is escaped there. -/
def member? (r : Reading) : Option (Pattern × Reading) :=
  match r.rest with
  | [] => none
  | '\\' :: _ => escaped? (r.drop 1)
  | c :: _ => some (letter ⟨c, false⟩, r.drop 1)

def letter? : Pattern → Option Letter
  | letter l => some l
  | _ => none

/-- A place is no set of characters. -/
def charSet? : Pattern → Option CharSet
  | letter l => some (.letter l)
  | set content => some content
  | _ => none

/-- A member of a set, or a range that a hyphen makes of two characters. -/
def range? (r : Reading) : Option (CharSet × Reading) := do
  let (first, r) ← member? r
  let r := r.skipSpace
  if r.sees '-' && r.second? ≠ some ']' && r.second? ≠ some '-' then
    let (last, r) ← member? r.step
    let (first, last) := (← letter? first, ← letter? last)
    if first.char ≤ last.char then some (.range first last, r) else none
  else some (← charSet? first, r)

/-- The names of classes that stand between colons. -/
def classNames : List String :=
  ["alnum", "alpha", "ascii", "blank", "cntrl", "digit", "graph", "lower", "print", "punct",
   "space", "upper", "word", "xdigit"]

/-- A class between brackets and colons. -/
def namedClass? (r : Reading) : Option (CharSet × Reading) :=
  match r.rest with
  | '[' :: ':' :: rest =>
    let (negated, rest) : Bool × List Char := match rest with
      | '^' :: rest => (true, rest)
      | rest => (false, rest)
    let (name, rest) := rest.span (· ≠ ':')
    match rest with
    | ':' :: ']' :: rest =>
      if classNames.contains (String.ofList name) then some (.named negated, { r with rest })
      else none
    | _ => none
  | _ => none

/-- Hyphens at the beginning of a set stand for themselves. -/
def hyphens : Nat → Reading → List CharSet × Reading
  | 0, r => ([], r)
  | steps + 1, r =>
    if r.sees '-' then
      let (more, r) := hyphens steps r.step
      (.letter ⟨'-', false⟩ :: more, r)
    else ([], r)

/-- The members that a set begins with: hyphens, or a closing bracket. -/
def firstMembers (r : Reading) : List CharSet × Reading :=
  match hyphens r.rest.length r with
  | ([], r) => if r.sees ']' then ([.letter ⟨']', false⟩], r.step) else ([], r)
  | found => found

/-- What the members since the last combination come to, with what stands before it. -/
def joined (left : Option CharSet) (members : List CharSet) : CharSet :=
  let right := CharSet.ofItems members.reverse
  match left with
  | some left => .combined left right
  | none => right

mutual

/-- A set from its opening bracket on. -/
def brackets? : Nat → Reading → Option (CharSet × Reading)
  | 0, _ => none
  | steps + 1, r => do
    let r := r.step
    let negated := r.sees '^'
    let (members, r) := firstMembers (if negated then r.step else r)
    let (content, r) ← members? steps none members.reverse r
    some (.brackets negated content, r)

/-- The members of a set and its closing bracket. The last ones come first in `done`. -/
def members? : Nat → Option CharSet → List CharSet → Reading → Option (CharSet × Reading)
  | 0, _, _, _ => none
  | steps + 1, left, done, r =>
    let r := r.skipSpace
    match r.rest with
    | ']' :: _ => some (joined left done, r.drop 1)
    | '&' :: '&' :: _ | '-' :: '-' :: _ | '~' :: '~' :: _ =>
      members? steps (some (joined left done)) [] (r.drop 2)
    | '[' :: _ => do
      let (item, r) ← (namedClass? r).or (brackets? steps r)
      members? steps left (item :: done) r
    | _ => do
      let (item, r) ← range? r
      members? steps left (item :: done) r

end

/-! Groups -/

/-- A list of flags: letters, each at most once, and the letters behind a hyphen are taken back. -/
def flags? (text : List Char) : Option Flags :=
  let state (c : Char) : Option Bool :=
    if text.contains c then some ((text.takeWhile (· ≠ '-')).contains c) else none
  if text.all "imsUuRx-".toList.contains && text.Nodup && text.getLast? ≠ some '-' then
    some ⟨state 'x', state 'u'⟩
  else none

/-- What a parenthesis opens. -/
inductive Opening where
  | flags (f : Flags)
  | group (f : Flags)

/-- A group that has a name, from the name on. -/
def named? (r : Reading) : Option (Opening × Reading) :=
  let (name, rest) := r.rest.span (· ≠ '>')
  match name, rest with
  | first :: later, _ :: rest =>
    let isName := (first = '_' || Text.isAlphabetic first) && later.all fun c =>
      "_.[]".toList.contains c || Text.isAlphanumeric c
    let text := String.ofList name
    if isName && !r.names.contains text then
      some (.group {}, { r with rest, names := text :: r.names })
    else none
  | _, _ => none

/-- What stands right behind an opening parenthesis. A group that only looks around is refused. -/
def opening? (r : Reading) : Option (Opening × Reading) :=
  match r.rest with
  | '?' :: '!' :: _ | '?' :: '=' :: _ | '?' :: '<' :: '!' :: _ | '?' :: '<' :: '=' :: _ => none
  | '?' :: 'P' :: '<' :: _ => named? (r.drop 3)
  | '?' :: '<' :: _ => named? (r.drop 2)
  | '?' :: rest => do
    let (text, rest) := rest.span fun c => c ≠ ':' && c ≠ ')'
    let f ← flags? text
    match rest with
    | ':' :: rest => some (.group f, { r with rest })
    | ')' :: rest => if text.isEmpty then none else some (.flags f, { r with rest })
    | _ => none
  | _ => some (.group {}, r)

/-- A part that is no group, no set and no repetition. -/
def part? (r : Reading) : Option (Pattern × Reading) :=
  match r.rest with
  | [] => none
  | '\\' :: _ => escaped? (r.drop 1)
  | '.' :: _ => some (any, r.drop 1)
  | '^' :: _ | '$' :: _ => some (place false, r.drop 1)
  | c :: _ => some (letter ⟨c, false⟩, r.drop 1)

/-- The last part and a mark of repetition behind it, which another question mark makes lazy. Flags
are not repeated. -/
def repeat? (done : List Pattern) (r : Reading) : Option (List Pattern × Reading) :=
  match done with
  | [] | .flags _ :: _ => none
  | part :: done =>
    let r := r.drop 1
    some (repeated part :: done, if r.sees '?' then r.drop 1 else r)

mutual

/-- The branches up to the end of the group. The last parts of the last branch come first in `done`,
and the last of the branches before it comes first in `branches`. -/
def branches? : Nat → (branches done : List Pattern) → Reading → Option (Pattern × Reading)
  | 0, _, _, _ => none
  | steps + 1, branches, done, r =>
    let r := r.skipSpace
    match r.rest with
    | [] | ')' :: _ => some (ofBranches (ofParts done.reverse :: branches).reverse, r)
    | '|' :: _ => branches? steps (ofParts done.reverse :: branches) [] (r.drop 1)
    | '(' :: _ => do
      let (part, r) ← group? steps (r.drop 1)
      branches? steps branches (part :: done) r
    | '[' :: _ => do
      let (content, r) ← brackets? (r.rest.length + 1) r
      branches? steps branches (set content :: done) r
    | '?' :: _ | '*' :: _ | '+' :: _ => do
      let (done, r) ← repeat? done r
      branches? steps branches done r
    | '\x7b' :: _ => none
    | _ => do
      let (part, r) ← part? r
      branches? steps branches (part :: done) r

/-- What stands between parentheses, and the closing one. How blanks are read inside of a group does
not go beyond it. -/
def group? : Nat → Reading → Option (Pattern × Reading)
  | 0, _ => none
  | steps + 1, r => do
    let spaced := r.spaced
    match ← opening? r.skipSpace with
    | (.flags f, r) => some (.flags f, { r with spaced := f.spaced.getD spaced })
    | (.group f, r) =>
      let (content, r) ← branches? steps [] [] { r with spaced := f.spaced.getD spaced }
      if r.sees ')' then some (group f content, { r.drop 1 with spaced }) else none

end

def read? (text : String) : Option Pattern := do
  let rest := text.toList
  let (p, r) ← branches? (rest.length + 1) [] [] { rest }
  if r.rest.isEmpty then some p else none

end ShardOperator.Pattern
