import ShardOperator.Json.Fields

namespace ShardOperator.Base64

def alphabet : List Char :=
  "ABCDEFGHIJKLMNOPQRSTUVWXYZabcdefghijklmnopqrstuvwxyz0123456789+/".toList

def digit (n : Nat) : Char := alphabet.getD n '='

def value? (c : Char) : Option Nat := alphabet.findIdx? (· == c)

/-- Three bytes make four digits; the last group is padded. -/
def encode : List UInt8 → List Char
  | a :: b :: c :: rest =>
    let n := (a.toNat * 256 + b.toNat) * 256 + c.toNat
    digit (n / 262144) :: digit (n / 4096 % 64) :: digit (n / 64 % 64) :: digit (n % 64) ::
      encode rest
  | [a, b] =>
    let n := (a.toNat * 256 + b.toNat) * 4
    [digit (n / 4096), digit (n / 64 % 64), digit (n % 64), '=']
  | [a] => [digit (a.toNat / 4), digit (a.toNat % 4 * 16), '=', '=']
  | [] => []

/-- Accepts what `encode` writes and nothing else: the padding is there, and no bit is left over. -/
def decode? : List Char → Option (List UInt8)
  | [] => some []
  | [a, b, '=', '='] => do
    let n := (← value? a) * 64 + (← value? b)
    if n % 16 = 0 then some [UInt8.ofNat (n / 16)] else none
  | [a, b, c, '='] => do
    let n := ((← value? a) * 64 + (← value? b)) * 64 + (← value? c)
    if n % 4 = 0 then some [UInt8.ofNat (n / 1024), UInt8.ofNat (n / 4 % 256)] else none
  | a :: b :: c :: d :: rest => do
    let n := (((← value? a) * 64 + (← value? b)) * 64 + (← value? c)) * 64 + (← value? d)
    let more ← decode? rest
    some (UInt8.ofNat (n / 65536) :: UInt8.ofNat (n / 256 % 256) :: UInt8.ofNat (n % 256) :: more)
  | _ => none

/-- The bytes of as many digits as there are; bits that fill no byte are dropped. -/
def bytesOf : List Nat → List UInt8
  | a :: b :: c :: d :: rest =>
    let n := ((a * 64 + b) * 64 + c) * 64 + d
    UInt8.ofNat (n / 65536) :: UInt8.ofNat (n / 256 % 256) :: UInt8.ofNat (n % 256) :: bytesOf rest
  | [a, b, c] =>
    let n := (a * 64 + b) * 64 + c
    [UInt8.ofNat (n / 1024), UInt8.ofNat (n / 4 % 256)]
  | [a, b] => [UInt8.ofNat ((a * 64 + b) / 16)]
  | _ => []

def isBlank (c : Char) : Bool := c = ' ' || ('\t' ≤ c && c ≤ '\r')

/-- A lone digit makes no byte. Padding may be left out, else it fills the last group of four. -/
def isComplete (digits padding : Nat) : Bool :=
  if padding = 0 then digits % 4 ≠ 1
  else padding ≤ 2 && (digits + padding) % 4 = 0

/-- Blanks do not count, and bits may be left over. -/
def decodeLoose? (cs : List Char) : Option (List UInt8) := do
  let cs := cs.filter (!isBlank ·)
  let (digits, padding) := cs.span (· != '=')
  if padding.all (· == '=') && isComplete digits.length padding.length then
    some (bytesOf (← digits.mapM value?))
  else none

/-- Nothing at all stands for no bytes. -/
def ofJson? : Json → Option (List UInt8)
  | .null => some []
  | value => value.text?.bind fun s => decode? s.toList

def toJson (bytes : List UInt8) : Json := .str (String.ofList (encode bytes))

end ShardOperator.Base64
