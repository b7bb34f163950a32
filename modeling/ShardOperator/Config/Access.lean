import ShardOperator.Config.Document

namespace ShardOperator

/-- How the operator reaches the administrative interface of a host. -/
structure AccessConfig where
  scheme : String := "http"
  port : Nat := 8123
  username : String := ""
  password : String := ""
  rootCa : Option String := none
  connectTimeoutSecs : Nat := 2
  queryTimeoutSecs : Nat := 10
  deriving DecidableEq, Inhabited

namespace AccessConfig

def declared : List String :=
  ["scheme", "port", "username", "password", "rootCa", "connectTimeoutSecs", "queryTimeoutSecs"]

def read? {δ : Type} [Document δ] (value : δ) : Option AccessConfig := do
  let f ← Document.record? declared value
  let a : AccessConfig := {}
  let seconds := Document.nat? UInt64.size
  some {
    scheme := ← Document.field f "scheme" a.scheme Document.text?
    port := ← Document.field f "port" a.port (Document.nat? UInt16.size)
    username := ← Document.field f "username" a.username Document.text?
    password := ← Document.field f "password" a.password Document.text?
    rootCa := ← Document.optionalField f "rootCa" Document.text?
    connectTimeoutSecs := ← Document.field f "connectTimeoutSecs" a.connectTimeoutSecs seconds
    queryTimeoutSecs := ← Document.field f "queryTimeoutSecs" a.queryTimeoutSecs seconds }

def toJson (a : AccessConfig) : Json := .obj [
  ("scheme", .str a.scheme),
  ("port", .ofNat a.port),
  ("username", .str a.username),
  ("password", .str a.password),
  ("rootCa", (a.rootCa.map .str).getD .null),
  ("connectTimeoutSecs", .ofNat a.connectTimeoutSecs),
  ("queryTimeoutSecs", .ofNat a.queryTimeoutSecs)]

end AccessConfig

end ShardOperator
