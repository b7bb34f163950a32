namespace ShardOperator

/-- A finite binary64 value, `mantissa * 2 ^ exponent` with a sign. The mantissa stays below
`2 ^ 53`, and below `2 ^ 52` only at the least exponent, `-1074`. -/
structure Double where
  negative : Bool
  mantissa : Nat
  exponent : Int
  deriving DecidableEq, Inhabited

namespace Double

/-- The least mantissa above the least exponent. -/
def leastFull : Nat := 0x10000000000000

def roundDiv (num den : Nat) : Nat :=
  let q := num / den
  match compare (2 * (num % den)) den with
  | .lt => q
  | .gt => q + 1
  | .eq => q + q % 2

/-- The value nearest to `num / den`, a tie going to the even mantissa; none beyond the range. -/
def nearest? (num den : Nat) : Option Double :=
  if num = 0 then some ⟨false, 0, -1074⟩
  else
    let guess : Int := max (-1074) ((num.log2 : Int) - den.log2 - 52)
    let scaled (q : Int) : Nat × Nat := (num <<< (-q).toNat, den <<< q.toNat)
    let low := (scaled guess).1 / (scaled guess).2 < leastFull
    let q := if low && guess > -1074 then guess - 1 else guess
    let m := roundDiv (scaled q).1 (scaled q).2
    let (m, q) := if m = 2 * leastFull then (leastFull, q + 1) else (m, q)
    if q > 971 then none else some ⟨false, m, q⟩

def num (x : Double) : Nat := x.mantissa <<< x.exponent.toNat

def den (x : Double) : Nat := 1 <<< (-x.exponent).toNat

def mul? (x y : Double) : Option Double := nearest? (x.num * y.num) (x.den * y.den)

def div? (x y : Double) : Option Double := nearest? (x.num * y.den) (x.den * y.num)

def tenPow? (k : Nat) : Option Double := nearest? (Nat.pow 10 k) 1

/-- Divides by the greatest power of ten in range until the exponent is one of a power in range:
three divisions bring any 64-bit number to zero. -/
def scaleDown? : Nat → Double → Nat → Option Double
  | 0, _, _ => nearest? 0 1
  | steps + 1, x, k =>
    if k ≤ 308 then (tenPow? k).bind x.div?
    else if x.mantissa = 0 then some x
    else ((tenPow? 308).bind x.div?).bind fun y => scaleDown? steps y (k - 308)

/-- Reads `significand * 10 ^ exponent` with one rounding of the significand and one of each
scaling step, which is exact or correctly rounded for numbers of up to fifteen digits. -/
def ofDecimal? (negative : Bool) (significand : Nat) (exponent : Int) : Option Double :=
  let magnitude : Option Double := (nearest? significand 1).bind fun x =>
    if exponent < 0 then scaleDown? 4 x exponent.natAbs
    else if exponent ≤ 308 then (tenPow? exponent.toNat).bind x.mul?
    else if x.mantissa = 0 then some x
    else none
  magnitude.map ({ · with negative })

/-- The integer's nearest value; integers of up to 64 bits are always in range. -/
def ofInt (n : Int) : Double :=
  ((nearest? n.natAbs 1).map ({ · with negative := decide (n < 0) })).getD default

end Double

end ShardOperator
