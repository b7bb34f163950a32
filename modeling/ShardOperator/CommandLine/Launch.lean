import ShardOperator.CommandLine.FileTree
import ShardOperator.CommandLine.LogFilter
import ShardOperator.Config.Operator

namespace ShardOperator

namespace OperatorConfig

/-- The configuration in a file. -/
def ofFile (path : String) (content : Except ReadFault String) : Outcome OperatorConfig :=
  match content with
  | .ok text => ofYaml text
  | .error fault => .error (.configuration ("failed to read " ++ path ++ ": " ++ fault.text))

/-- The namespaces as a line of the log shows them. -/
def namespacesText (c : OperatorConfig) : String :=
  "[" ++ Text.join ", " (c.watchNamespaces.map Text.quote) ++ "]"

end OperatorConfig

/-- The line of the log that tells of a start. -/
def startLine : LogLine := ⟨.info, "clickhouse_operator", ["message", "workers", "namespaces"]⟩

/-- What a command comes to. A start is announced in the log when the log shows that line. -/
inductive Launch where
  | version
  | help
  | misuse
  | manifest
  | refused (error : OperatorError)
  /-- The program breaks off before it can write a log. -/
  | broken
  | started (config : OperatorConfig) (announced : Bool)
  deriving DecidableEq

namespace Arguments

/-- Puts what the command line says in place of what the file says. The log is written as JSON when
either asks for it. -/
def override (a : Arguments) (c : OperatorConfig) : OperatorConfig :=
  let workers := a.workers.getD c.reconcile.workers
  { c with
    watchNamespaces := a.watchNamespaces.getD c.watchNamespaces
    reconcile := { c.reconcile with workers }
    logJson := c.logJson || a.logJson }

/-- The configuration to start with. Both the file and the whole are checked. -/
def load {m : Type → Type} [Monad m] (read : String → m (Except ReadFault String))
    (a : Arguments) : m (Outcome OperatorConfig) := do
  let base ← match a.config with
    | some path => OperatorConfig.ofFile path <$> read path
    | none => pure (.ok {})
  return do
    let config := a.override (← base)
    config.validate
    return config

end Arguments

/-- The name and the version of the program. -/
def versionLine : String := "clickhouse-operator 0.1.0"

/-- What is said when there is no cluster to work for. -/
def noClient : String := "Failed to create Kubernetes client"

namespace Launch

variable {m : Type → Type} [Monad m]

/-- Carries a command out up to the point where the cluster is needed. The manifest is given out
whatever the configuration is, and the log is set up after the configuration is read. -/
def ofCommand (log? : Option LogFilter) (read : String → m (Except ReadFault String)) :
    Command → m Launch
  | .version => return .version
  | .help => return .help
  | .misuse => return .misuse
  | .start a =>
    if a.manifest then return .manifest
    else do
      match ← a.load read, log? with
      | .ok config, some log => return .started config (log.shows startLine)
      | .ok _, none => return .broken
      | .error e, _ => return .refused e

/-- What the words of a command line come to in an environment. -/
def ofWords (env : Environment) (read : String → m (Except ReadFault String))
    (words : List String) : m Launch :=
  ofCommand (LogFilter.ofWish? env.log) read (Command.read words env)

/-- The exit code of a program that has no cluster. -/
def exitCode : Launch → Nat
  | .version | .help | .manifest => 0
  | .refused _ | .started .. => 1
  | .misuse => 2
  | .broken => 101

/-- The error that the program ends with. -/
def error? : Launch → Option String
  | .refused e => some e.message
  | .started .. => some noClient
  | _ => none

end Launch

end ShardOperator
