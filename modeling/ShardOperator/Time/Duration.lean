namespace ShardOperator

/-- A length of time in milliseconds. -/
structure Duration where
  millis : Nat
  deriving DecidableEq, Inhabited

namespace Duration

def ofSecs (secs : Nat) : Duration := ⟨secs * 1000⟩

/-- Three digits, without the zeros at the end. -/
def fraction (millis : Nat) : String :=
  let digits := (Nat.toDigits 10 (1000 + millis)).tail
  String.ofList (digits.reverse.dropWhile (· == '0')).reverse

/-- Whole seconds with what is over as a fraction, or milliseconds below a second. -/
def text (d : Duration) : String :=
  if d.millis = 0 then "0ns"
  else if d.millis < 1000 then toString d.millis ++ "ms"
  else
    let secs := toString (d.millis / 1000)
    if d.millis % 1000 = 0 then secs ++ "s" else secs ++ "." ++ fraction (d.millis % 1000) ++ "s"

end Duration

end ShardOperator
