import ShardOperator.Number.Double

namespace ShardOperator.Double

/-- `digits * 10 ^ exponent` -/
structure Decimal where
  digits : Nat
  exponent : Int
  deriving DecidableEq

/-- The ends of the interval of reals that round to the value, in quarters of the last place of the
mantissa. Below a power of two the gap is half as wide. -/
def interval (x : Double) : Nat × Nat :=
  let narrow := x.mantissa = leastFull ∧ x.exponent > -1074
  (if narrow then 4 * x.mantissa - 1 else 4 * x.mantissa - 2, 4 * x.mantissa + 2)

/-- The decimal reads back to the value: it lies between the ends, which belong to the interval of
an even mantissa. -/
def readsBack (x : Double) (d : Decimal) : Bool :=
  let scaled := d.digits * Nat.pow 10 d.exponent.toNat * 4 * x.den
  let unit := Nat.pow 10 (-d.exponent).toNat <<< x.exponent.toNat
  let (low, high) := x.interval
  if x.mantissa % 2 = 0 then low * unit ≤ scaled && scaled ≤ high * unit
  else low * unit < scaled && scaled < high * unit

/-- The least `k` with the value below `10 ^ k`; the value is not zero. -/
def scale (x : Double) : Int :=
  if x.den ≤ x.num then (Nat.toDigits 10 (x.num / x.den)).length
  else 1 - ((Nat.toDigits 10 ((x.den - 1) / x.num)).length : Int)

/-- The two neighbours of the value among the multiples of `10 ^ exponent`, the nearer one first;
of two equally near ones the greater is first. -/
def neighbours (x : Double) (exponent : Int) : List Decimal :=
  let n := x.num * Nat.pow 10 (-exponent).toNat
  let d := x.den * Nat.pow 10 exponent.toNat
  let below := n / d
  if 2 * n < (2 * below + 1) * d then [⟨below, exponent⟩, ⟨below + 1, exponent⟩]
  else [⟨below + 1, exponent⟩, ⟨below, exponent⟩]

/-- The fewest digits that read back, and of those the nearest to the value. Seventeen digits
always suffice. -/
def shortest (x : Double) : Decimal :=
  if x.mantissa = 0 then ⟨0, 0⟩
  else
    let found := (List.range 17).findSome? fun n =>
      (x.neighbours (x.scale - (n + 1 : Nat))).find? x.readsBack
    found.getD ⟨x.num * Nat.pow 5 (-x.exponent).toNat, min x.exponent 0⟩

/-- Positional notation at every size, without a point when the value is whole. -/
def Decimal.positional (d : Decimal) : String :=
  let digits := Nat.toDigits 10 d.digits
  if d.exponent ≥ 0 then String.ofList (digits ++ List.replicate d.exponent.toNat '0')
  else
    let places := d.exponent.natAbs
    let padded := List.replicate (places + 1 - digits.length) '0' ++ digits
    let whole := padded.take (padded.length - places)
    let fraction := (padded.drop (padded.length - places)).reverse.dropWhile (· == '0')
    if fraction.isEmpty then String.ofList whole
    else String.ofList (whole ++ '.' :: fraction.reverse)

/-- The power of ten that the first digit counts. -/
def Decimal.order (d : Decimal) : Int := (Nat.toDigits 10 d.digits).length - 1 + d.exponent

/-- One digit, the others after a point if there are any, and the power of ten with its sign and
with at least two digits. -/
def Decimal.scientific (d : Decimal) : String :=
  let digits := Nat.toDigits 10 d.digits
  let power := Nat.toDigits 10 d.order.natAbs
  let others := ((digits.drop 1).reverse.dropWhile (· == '0')).reverse
  let fraction := if others.isEmpty then [] else '.' :: others
  String.ofList (digits.take 1 ++ fraction ++ ['e', if d.order < 0 then '-' else '+'] ++
    List.replicate (2 - power.length) '0' ++ power)

def signText (x : Double) : String := if x.negative then "-" else ""

/-- The text of the value: the fewest digits that read back, positional, with the sign of zero. -/
def text (x : Double) : String := x.signText ++ x.shortest.positional

end ShardOperator.Double
