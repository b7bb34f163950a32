import ShardOperator.Json.Fields
import ShardOperator.Text.Blank

namespace ShardOperator

/-- A moment in UTC to the second: minutes since 1970-01-01T00:00Z, and the second, which is 60 in a
leap second. -/
structure Timestamp where
  minute : Int
  second : Nat
  deriving DecidableEq, Inhabited

namespace Timestamp

def isLeapYear (year : Int) : Bool :=
  year % 4 = 0 && (year % 100 ≠ 0 || year % 400 = 0)

def monthDays (year : Int) : List Nat :=
  [31, if isLeapYear year then 29 else 28, 31, 30, 31, 30, 31, 31, 30, 31, 30, 31]

/-- The days from 0000-01-01 to the first day of the year. -/
def daysBeforeYear (year : Int) : Int :=
  365 * year + (year - 1) / 4 - (year - 1) / 100 + (year - 1) / 400 + 1

/-- The days from 0000-01-01 to 1970-01-01. -/
def epochDay : Int := daysBeforeYear 1970

def dayNumber (year : Int) (month day : Nat) : Int :=
  let daysBefore : Nat := ((monthDays year).take (month - 1)).foldl (· + ·) 0
  daysBeforeYear year + daysBefore + (day - 1) - epochDay

/-- The month and day of a day of the year, both counted from one. -/
def monthDay : List Nat → Nat → Nat → Nat × Nat
  | [], month, day => (month, day + 1)
  | days :: rest, month, day =>
    if day < days then (month, day + 1) else monthDay rest (month + 1) (day - days)

def civil (day : Int) : Int × Nat × Nat :=
  let fromZero := day + epochDay
  let guess := fromZero * 400 / 146097
  let year := if daysBeforeYear (guess + 1) ≤ fromZero then guess + 1
    else if fromZero < daysBeforeYear guess then guess - 1 else guess
  (year, monthDay (monthDays year) 1 (fromZero - daysBeforeYear year).toNat)

/-- At least one digit, and at most `limit` of them. -/
def digits? (limit : Nat) (cs : List Char) : Option (Nat × List Char) :=
  let digits := (cs.take limit).takeWhile Char.isDigit
  if digits.isEmpty then none
  else some (digits.foldl (fun n c => n * 10 + (c.toNat - 48)) 0, cs.drop digits.length)

/-- A number of one or two digits after blanks. -/
def number? (cs : List Char) : Option (Nat × List Char) := digits? 2 (Text.trimStart cs)

/-- Only a year with a sign may have more than four digits. -/
def year? (cs : List Char) : Option (Int × List Char) :=
  match Text.trimStart cs with
  | '-' :: rest => (digits? rest.length rest).map fun r => (-(r.1 : Int), r.2)
  | '+' :: rest => (digits? rest.length rest).map fun r => (r.1, r.2)
  | rest => (digits? 4 rest).map fun r => (r.1, r.2)

/-- A mark after blanks. -/
def mark? (c : Char) (cs : List Char) : Option (List Char) :=
  match Text.trimStart cs with
  | x :: rest => if x = c then some rest else none
  | [] => none

/-- The sign of a distance is plus, hyphen or minus. -/
def sign? : List Char → Option (Int × List Char)
  | '+' :: rest => some (1, rest)
  | '-' :: rest | '\u2212' :: rest => some (-1, rest)
  | _ => none

def pair? (cs : List Char) : Option (Nat × List Char) :=
  if (cs.take 2).length = 2 ∧ (cs.take 2).all Char.isDigit then digits? 2 cs else none

/-- Hours and minutes of two digits each, with any colons and blanks between them. -/
def distance? (cs : List Char) : Option (Int × List Char) := do
  let (sign, cs) ← sign? cs
  let (hours, cs) ← pair? cs
  let (minutes, cs) ← pair? (cs.dropWhile fun c => c == ':' || Text.isBlank c)
  if hours < 24 ∧ minutes < 60 then some (sign * (hours * 60 + minutes : Nat), cs) else none

/-- The distance from UTC in minutes: a name of UTC, or a number. -/
def zone? (cs : List Char) : Option (Int × List Char) :=
  if (cs.take 3).map Char.toLower = ['u', 't', 'c'] then some (0, cs.drop 3)
  else if (cs.take 1).map Char.toLower = ['z'] then some (0, cs.drop 1)
  else distance? cs

/-- A fraction of a second has a digit at least; it is dropped. -/
def dropFraction? : List Char → Option (List Char)
  | '.' :: rest =>
    if (rest.take 1).any Char.isDigit then some (rest.dropWhile Char.isDigit) else none
  | rest => some rest

/-- The years of moments that can be told. -/
def isYear (year : Int) : Bool := -262143 ≤ year && year ≤ 262142

/-- A date and a time of day with their distance from UTC. Blanks may stand before every part but
the mark between date and time. -/
def ofText? (s : String) : Option Timestamp := do
  let (year, cs) ← year? s.toList
  let (month, cs) ← number? (← mark? '-' cs)
  let (day, cs) ← number? (← mark? '-' cs)
  let cs ← match cs with
    | 'T' :: rest | 't' :: rest | ' ' :: rest => some rest
    | _ => none
  let (hour, cs) ← number? cs
  let (minute, cs) ← number? (← mark? ':' cs)
  let (second, cs) ← number? (← mark? ':' cs)
  let (offset, cs) ← zone? (Text.trimStart (← dropFraction? cs))
  let days ← (monthDays year)[month - 1]?
  let total := (dayNumber year month day * 24 + hour) * 60 + minute - offset
  if (Text.trimStart cs).isEmpty ∧ 1 ≤ month ∧ 1 ≤ day ∧ day ≤ days ∧ hour < 24 ∧ minute < 60 ∧
      second ≤ 60 ∧ isYear year ∧ isYear (civil (total / 1440)).1 then
    some ⟨total, second⟩
  else none

def padded (width n : Nat) : String :=
  let digits := Nat.toDigits 10 n
  String.ofList (List.replicate (width - digits.length) '0' ++ digits)

/-- Years without a sign have four digits, all others a sign and four digits at least. -/
def yearText (year : Int) : String :=
  let sign := if year < 0 then "-" else if 9999 < year then "+" else ""
  sign ++ padded 4 year.natAbs

def text (t : Timestamp) : String :=
  let (year, month, day) := civil (t.minute / 1440)
  let ofDay := (t.minute % 1440).toNat
  yearText year ++ "-" ++ padded 2 month ++ "-" ++ padded 2 day ++ "T" ++
    padded 2 (ofDay / 60) ++ ":" ++ padded 2 (ofDay % 60) ++ ":" ++ padded 2 t.second ++ "Z"

def ofJson? (value : Json) : Option Timestamp := value.text?.bind ofText?

def toJson (t : Timestamp) : Json := .str t.text

end Timestamp

end ShardOperator
