import ShardOperator.CommandLine.Arguments
import ShardOperator.Pattern.Reader
import ShardOperator.Text.Alphanumeric
import ShardOperator.Text.Blank

namespace ShardOperator

/-- How far a filter goes: it lets through the lines up to its level. No line is `off`. -/
inductive LogLevel where
  | off
  | error
  | warn
  | info
  | debug
  | trace
  deriving DecidableEq, Inhabited

namespace LogLevel

def all : List LogLevel := [off, error, warn, info, debug, trace]

def name : LogLevel → String
  | off => "off"
  | error => "error"
  | warn => "warn"
  | info => "info"
  | debug => "debug"
  | trace => "trace"

def rank (level : LogLevel) : Nat := all.idxOf level

/-- A level is written as its rank or as its name, in small or capital letters. -/
def read? (text : String) : Option LogLevel :=
  match Arguments.count? text with
  | some n => all[n]?
  | none => all.find? fun level => level.name = Text.lowerAscii text

end LogLevel

/-- What a filter sees of a line of the log. -/
structure LogLine where
  level : LogLevel
  target : String
  fields : List String
  deriving DecidableEq

/-- One rule of a filter. -/
structure LogRule where
  level : LogLevel := .trace
  /-- How the target of a line has to begin. -/
  target : Option String := none
  /-- Only lines within a certain activity are meant. -/
  within : Option String := none
  /-- The fields a line has to have, some with a value that is asked for. -/
  fields : List (String × Option String) := []
  deriving DecidableEq, Inhabited

namespace LogRule

def names (r : LogRule) : List String := r.fields.map (·.1)

/-- The rule can be told from the line alone. -/
def isPlain (r : LogRule) : Bool := r.within.isNone && r.fields.all (·.2.isNone)

def fits (r : LogRule) (line : LogLine) : Bool :=
  r.isPlain && r.target.all (Text.startsWith · line.target) &&
    r.names.all line.fields.contains

/-- A rule that says more counts for more: first by its target, then by its fields. Of rules that
are alike, the later counts. -/
def yields (r other : LogRule) : Bool :=
  let length (r : LogRule) : Nat := (r.target.map (·.utf8ByteSize + 1)).getD 0
  if length r ≠ length other then length r < length other
  else if r.fields.length ≠ other.fields.length then r.fields.length < other.fields.length
  else r.names = other.names ∨ r.names < other.names

/-- Why a rule is not read. -/
inductive Fault where
  | unreadable
  /-- A part of it would begin or end within a character. -/
  | torn
  deriving DecidableEq

/-- A rule under reading. Blanks at its ends decide nothing: what it says is told from the
characters between them, and places are counted in bytes from the first of these. The parts of the
rule are what stands at such places in the text with its blanks. -/
structure Draft where
  written : List Char
  seen : List Char
  place : Nat := 0

namespace Draft

def ofText (text : String) : Draft := ⟨text.toList, Text.trimChars text.toList, 0⟩

def drop (d : Draft) (n : Nat) : Draft :=
  { d with seen := d.seen.drop n, place := d.place + Text.byteCount (d.seen.take n) }

/-- All that is written from a place on. -/
def rest? (d : Draft) : Except Fault String :=
  match Text.dropBytes? d.place d.written with
  | some part => .ok (String.ofList part)
  | none => .error .torn

/-- The part before the first character that ends it, that character, and what is behind it. -/
def cut? (d : Draft) (ends : Char → Bool) : Except Fault (Option (String × Char × Draft)) :=
  let part := d.seen.takeWhile (!ends ·)
  match d.seen.drop part.length with
  | [] => .ok none
  | c :: _ =>
    match (Text.dropBytes? d.place d.written).bind (Text.takeBytes? (Text.byteCount part)) with
    | some text => .ok (some (String.ofList text, c, d.drop (part.length + 1)))
    | none => .error .torn

end Draft

/-- A number that may have a fraction and an exponent, and digits in front of the exponent. -/
def isDecimal (cs : List Char) : Bool :=
  let (whole, rest) := cs.span Char.isDigit
  let (fraction, rest) : List Char × List Char := match rest with
    | '.' :: rest => rest.span Char.isDigit
    | rest => ([], rest)
  let isExponent := match rest with
    | [] => true
    | e :: rest =>
      let digits : List Char := match rest with
        | '+' :: digits | '-' :: digits => digits
        | digits => digits
      (e = 'e' || e = 'E') && !digits.isEmpty && digits.all Char.isDigit
  (!whole.isEmpty || !fraction.isEmpty) && isExponent

/-- The value of a field is a truth value, a number or a pattern. Every truth value is a pattern,
and so is every number but one with a plus sign. -/
def isValue (text : String) : Bool :=
  match text.toList with
  | '+' :: number =>
    isDecimal number ||
      ["inf", "infinity", "nan"].contains (Text.lowerAscii (String.ofList number))
  | _ => (Pattern.read? text).any (·.isUsable)

/-- A field, with its value behind an equals sign. -/
def field? (text : String) : Option (String × Option String) :=
  match Text.split '=' text with
  | [""] | [] => none
  | name :: values => if values.head?.all isValue then some (name, values.head?) else none

/-- What is behind the target: nothing, or a level, every level when it is left open. -/
def withLevel? (r : LogRule) (d : Draft) : Except Fault LogRule := do
  let text ← d.rest?
  match if text = "" then some .trace else LogLevel.read? text with
  | some level => .ok { r with level }
  | none => .error .unreadable

def close? (r : LogRule) (d : Draft) : Except Fault LogRule :=
  match d.seen with
  | [] => .ok r
  | '=' :: _ => r.withLevel? (d.drop 1)
  | _ => .error .unreadable

/-- The field between braces, and what closes the activity behind it. -/
def withField? (r : LogRule) (d : Draft) : Except Fault LogRule := do
  match ← d.cut? (· = '\x7d') with
  | some (text, _, behind) =>
    match field? text, behind.seen with
    | some field, ']' :: _ => close? { r with fields := [field] } (behind.drop 1)
    | _, _ => .error .unreadable
  | none => .error .unreadable

/-- The activity between square brackets. -/
def withActivity? (r : LogRule) (d : Draft) : Except Fault LogRule := do
  match ← d.cut? fun c => c = ']' ∨ c = '\x7b' with
  | some (text, ']', behind) => close? { r with within := some text } behind
  | some (text, _, behind) =>
    withField? { r with within := if text = "" then none else some text } behind
  | none => .error .unreadable

def isStart (c : Char) : Bool := c = '-' || c = ':' || c = '_' || Text.isAlphanumeric c

/-- A rule is a level, or a target with what is behind it. -/
def read? (text : String) : Except Fault LogRule := do
  let d := Draft.ofText text
  match d.seen with
  | [] => .error .unreadable
  | '[' :: _ => withActivity? {} (d.drop 1)
  | first :: _ =>
    if !isStart first then .error .unreadable
    else
      match ← d.cut? fun c => c = '=' ∨ c = '[' with
      | some (name, '=', behind) => withLevel? { target := some name } behind
      | some (name, _, behind) => withActivity? { target := some name } behind
      | none =>
        let text ← d.rest?
        match LogLevel.read? text with
        | some level => .ok { level }
        | none => .ok { target := some text }

end LogRule

/-- The rules by which lines of the log are shown. -/
structure LogFilter where
  rules : List LogRule
  deriving DecidableEq, Inhabited

namespace LogFilter

/-- The rules between commas. The first fault counts. -/
def read? (text : String) : Except LogRule.Fault LogFilter := do
  let rules ← ((Text.split ',' text).filter (· ≠ "")).mapM LogRule.read?
  return ⟨rules⟩

/-- What holds unless something else is asked for. -/
def standard : LogFilter := ⟨[{ level := .info }, { level := .warn, target := some "kube" }]⟩

/-- A wish that cannot be read counts as none, but there is no filter for a wish that is torn. -/
def ofWish? (wish : Option String) : Option LogFilter :=
  match wish.map read? with
  | some (.ok filter) => some filter
  | some (.error .torn) => none
  | some (.error .unreadable) | none => some standard

/-- The rule that decides about a line. -/
def rule? (f : LogFilter) (line : LogLine) : Option LogRule :=
  (f.rules.filter (·.fits line)).foldl (fun best r =>
    match best with
    | some b => if b.yields r then some r else some b
    | none => some r) none

/-- A line is shown when the rule that decides about it goes as far as the line. -/
def shows (f : LogFilter) (line : LogLine) : Bool :=
  (f.rule? line).any fun r => line.level.rank ≤ r.level.rank

end LogFilter

end ShardOperator
