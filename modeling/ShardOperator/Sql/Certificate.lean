import ShardOperator.Data.Der
import ShardOperator.Text.Armor

namespace ShardOperator.Sql

namespace Certificate

open Der

/-- An extension: what it is about, and its value. -/
structure Extension where
  about : Bytes
  value : Bytes

/-- Between the two it may say that it has to be understood. Nobody asks that of an extension of a
certificate that is trusted anyway. -/
def extension? (bytes : Bytes) : Option Extension := do
  let (about, rest) ← expect? objectIdentifier bytes
  let (_, rest) ← flag? rest
  some { about, value := ← only? octetString rest }

/-- The extensions that are understood: the uses of a key, as names, limits and places. -/
def known : List Bytes := [15, 17, 19, 30, 31, 37].map fun n => [0x55, 0x1D, n]

def keyUsage : Bytes := [0x55, 0x1D, 15]

/-- A known extension but the key usage wraps a sequence; one that is not known holds anything. -/
def Extension.isAccepted (e : Extension) : Bool :=
  !known.contains e.about || e.about == keyUsage || (only? sequence e.value).isSome

/-- Each known extension may come once. -/
def areAccepted (extensions : List Extension) : Bool :=
  extensions.all (·.isAccepted) && (((extensions.map (·.about)).filter known.contains).Nodup : Bool)

/-- As many sequences as told, with the rest. -/
def sequences? : Nat → Bytes → Option (List Bytes × Bytes)
  | 0, bytes => some ([], bytes)
  | n + 1, bytes => do
    let (content, rest) ← expect? sequence bytes
    let (more, rest) ← sequences? n rest
    some (content :: more, rest)

/-- What is certified in the third version, without the version: a serial number, the algorithm of
the signature, issuer, validity, subject and key, and extensions. -/
def isThirdVersion (algorithm bytes : Bytes) : Bool :=
  let read := do
    let (_, rest) ← expect? integer bytes
    let (parts, rest) ← sequences? 5 rest
    let extensions ←
      if rest.isEmpty then some []
      else (← all? sequence (← only? sequence (← only? (numbered 3) rest))).mapM extension?
    if parts.head? = some algorithm && areAccepted extensions then some () else none
  read.isSome

/-- What is certified in the first version, which has neither a version nor extensions. -/
def isFirstVersion (bytes : Bytes) : Bool :=
  let read := do
    let (_, rest) ← expect? integer bytes
    sequences? 5 rest
  read.any (·.2.isEmpty)

/-- A signature is a string of whole bytes. -/
def isSignature (bytes : Bytes) : Bool := (only? bitString bytes).any (·.head? = some 0)

/-- A certificate is a sequence of what is certified, an algorithm and a signature. Only the third
version is numbered. -/
def isWellFormed (bytes : Bytes) : Bool :=
  let read := do
    let (certified, rest) ← expect? sequence (← only? sequence bytes)
    let (algorithm, rest) ← expect? sequence rest
    let isValid := match expect? (numbered 0) certified with
      | some (version, certified) =>
        only? integer version = some [2] && isThirdVersion algorithm certified
      | none => isFirstVersion certified
    if isSignature rest && isValid then some () else none
  read.isSome

end Certificate

/-- A bundle may be empty, but whatever it says is a certificate has to be one. -/
def isTrustBundle (bundle : String) : Bool :=
  match Armor.blocks? bundle with
  | some blocks => (blocks.filter (·.label == "CERTIFICATE")).all fun block =>
      Certificate.isWellFormed block.bytes
  | none => false

end ShardOperator.Sql
