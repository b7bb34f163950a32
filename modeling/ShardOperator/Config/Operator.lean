import ShardOperator.Config.Access
import ShardOperator.Config.HostDefaults
import ShardOperator.Error
import ShardOperator.Platform.Port
import ShardOperator.Text.Blank
import ShardOperator.Yaml.Reader

namespace ShardOperator

/-- How passes are run. Times are in seconds. -/
structure ReconcileConfig where
  workers : Nat := 4
  passTimeoutSecs : Nat := 600
  callTimeoutSecs : Nat := 30
  resyncIntervalSecs : Nat := 60
  deriving DecidableEq, Inhabited

namespace ReconcileConfig

def declared : List String :=
  ["workers", "passTimeoutSecs", "callTimeoutSecs", "resyncIntervalSecs"]

def read? {δ : Type} [Document δ] (value : δ) : Option ReconcileConfig := do
  let f ← Document.record? declared value
  let r : ReconcileConfig := {}
  let word := Document.nat? UInt64.size
  some {
    workers := ← Document.field f "workers" r.workers word
    passTimeoutSecs := ← Document.field f "passTimeoutSecs" r.passTimeoutSecs word
    callTimeoutSecs := ← Document.field f "callTimeoutSecs" r.callTimeoutSecs word
    resyncIntervalSecs := ← Document.field f "resyncIntervalSecs" r.resyncIntervalSecs word }

/-- The time after which a finished installation is looked at again; zero turns this off. -/
def resyncSecs? (r : ReconcileConfig) : Option Nat :=
  if r.resyncIntervalSecs = 0 then none else some r.resyncIntervalSecs

def toJson (r : ReconcileConfig) : Json := .obj [
  ("workers", .ofNat r.workers),
  ("passTimeoutSecs", .ofNat r.passTimeoutSecs),
  ("callTimeoutSecs", .ofNat r.callTimeoutSecs),
  ("resyncIntervalSecs", .ofNat r.resyncIntervalSecs)]

end ReconcileConfig

structure OperatorConfig where
  /-- No namespace stands for every namespace. -/
  watchNamespaces : List String := []
  reconcile : ReconcileConfig := {}
  defaults : HostDefaults := {}
  access : AccessConfig := {}
  logJson : Bool := false
  deriving DecidableEq, Inhabited

namespace OperatorConfig

def declared : List String :=
  ["watchNamespaces", "reconcile", "defaults", "clickhouse", "logJson"]

def read? {δ : Type} [Document δ] (value : δ) : Option OperatorConfig := do
  let f ← Document.record? declared value
  some {
    watchNamespaces := ← Document.field f "watchNamespaces" [] Document.texts?
    reconcile := ← Document.field f "reconcile" {} ReconcileConfig.read?
    defaults := ← Document.field f "defaults" {} HostDefaults.read?
    access := ← Document.field f "clickhouse" {} AccessConfig.read?
    logJson := ← Document.field f "logJson" false Document.bool? }

def toJson (c : OperatorConfig) : Json := .obj [
  ("watchNamespaces", .ofTexts c.watchNamespaces),
  ("reconcile", c.reconcile.toJson),
  ("defaults", c.defaults.toJson),
  ("clickhouse", c.access.toJson),
  ("logJson", .bool c.logJson)]

/-- The configured ports, in the order in which they are checked. -/
def ports (c : OperatorConfig) : List (String × Int) :=
  [("defaults.tcpPort", c.defaults.tcpPort.toInt), ("defaults.httpPort", c.defaults.httpPort.toInt),
   ("defaults.interserverHTTPPort", c.defaults.interserverPort.toInt),
   ("clickhouse.port", c.access.port)]

/-- The first thing that the operator cannot run with. -/
def problem? (c : OperatorConfig) : Option String :=
  if c.reconcile.workers = 0 then some "reconcile.workers must be at least 1"
  else
    match c.ports.find? (!isPort ·.2) with
    | some (field, port) => some (field ++ " " ++ toString port ++ " out of range")
    | none =>
      if c.access.scheme = "http" ∨ c.access.scheme = "https" then none
      else some ("clickhouse.scheme must be http or https, got '" ++ c.access.scheme ++ "'")

def validate (c : OperatorConfig) : Outcome Unit :=
  match c.problem? with
  | some problem => .error (.configuration problem)
  | none => .ok ()

/-- A configuration file; one that is blank leaves every default. -/
def ofYaml (text : String) : Outcome OperatorConfig :=
  if Text.trim text = "" then .ok {}
  else
    match (Yaml.parse? text).bind fun node => read? node.whole with
    | none => .error (.serialization "the configuration does not decode")
    | some config => do
      config.validate
      return config

end OperatorConfig

end ShardOperator
