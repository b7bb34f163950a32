namespace ShardOperator.Der

/-! Elements of the distinguished encoding: a tag, a length, and as many bytes. -/

abbrev Bytes := List UInt8

/-- The number that bytes say, the high byte first. -/
def number (bytes : Bytes) : Nat := bytes.foldl (fun n b => n * 256 + b.toNat) 0

/-- Elements have to be shorter than this. -/
def sizeLimit : Nat := 0xFFFF

/-- A length: one byte below 128, or the number of bytes that say it, with as few as possible. -/
def size? : Bytes → Option (Nat × Bytes)
  | [] => none
  | first :: rest =>
    if first < 0x80 then some (first.toNat, rest)
    else
      let width := first.toNat - 0x80
      let size := number (rest.take width)
      let least := if width = 1 then 0x80 else (0x100 : Nat) <<< (8 * (width - 2))
      if 1 ≤ width ∧ width ≤ 4 ∧ width ≤ rest.length ∧ least ≤ size then
        some (size, rest.drop width)
      else none

/-- The tag and the content of the element in front, with the rest. Tags of several bytes are
refused. -/
def element? : Bytes → Option (UInt8 × Bytes × Bytes)
  | [] => none
  | tag :: rest => do
    let (size, rest) ← size? rest
    if tag &&& 0x1F ≠ 0x1F ∧ size < sizeLimit ∧ size ≤ rest.length then
      some (tag, rest.take size, rest.drop size)
    else none

/-- The content of the element in front, which has to have this tag. -/
def expect? (tag : UInt8) (bytes : Bytes) : Option (Bytes × Bytes) := do
  let (found, content, rest) ← element? bytes
  if found = tag then some (content, rest) else none

/-- The content of the one element that the bytes are. -/
def only? (tag : UInt8) (bytes : Bytes) : Option Bytes := do
  let (content, rest) ← expect? tag bytes
  if rest.isEmpty then some content else none

/-- The contents of the elements that the bytes are made of, all of one tag. -/
def list? (tag : UInt8) : Nat → Bytes → Option (List Bytes)
  | _, [] => some []
  | 0, _ :: _ => none
  | steps + 1, bytes => do
    let (content, rest) ← expect? tag bytes
    some (content :: (← list? tag steps rest))

/-- Every element has a byte at least, so there are no more of them than bytes. -/
def all? (tag : UInt8) (bytes : Bytes) : Option (List Bytes) := list? tag bytes.length bytes

def boolean : UInt8 := 0x01
def integer : UInt8 := 0x02
def bitString : UInt8 := 0x03
def octetString : UInt8 := 0x04
def objectIdentifier : UInt8 := 0x06
def sequence : UInt8 := 0x30

/-- The tag of a part that is told from others by its number. -/
def numbered (n : UInt8) : UInt8 := 0xA0 + n

/-- A truth value that is left out is false. -/
def flag? (bytes : Bytes) : Option (Bool × Bytes) :=
  if bytes.head? = some boolean then do
    let (content, rest) ← expect? boolean bytes
    match content with
    | [0xFF] => some (true, rest)
    | [0x00] => some (false, rest)
    | _ => none
  else some (false, bytes)

end ShardOperator.Der
