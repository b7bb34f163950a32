import ShardOperator.CommandLine.Launch
import ShardOperator.Declaration.Manifest
import ShardOperator.Json.Writer

namespace ShardOperator

def readConfig (path : String) : IO (Except ReadFault String) := do
  try
    return .ok (← IO.FS.readFile path)
  catch
    | .noFileOrDirectory .. => return .error .missing
    | .inappropriateType .. => return .error .directory
    | e => return .error (.other (toString e))

def usage : String := "Usage: clickhouse-operator [OPTIONS]

Options:
      --crd                                 Print the CRD manifest and exit
      --config <CONFIG>                     Operator configuration file (YAML)
      --watch-namespace <WATCH_NAMESPACES>  Namespace to watch
      --workers <WORKERS>                   Number of reconcile workers
      --log-json                            Emit JSON logs
  -h, --help                                Print help
  -V, --version                             Print version"

def startText (c : OperatorConfig) : String :=
  let (message, workers) := ("ClickHouse operator starting...", c.reconcile.workers)
  if c.logJson then
    Json.compact (.obj [("level", .str "INFO"), ("message", .str message),
      ("workers", .ofNat workers), ("namespaces", .str c.namespacesText)])
  else
    "INFO " ++ message ++ " workers=" ++ toString workers ++ " namespaces=" ++ c.namespacesText

def Launch.print : Launch → IO Unit
  | .version => IO.println versionLine
  | .help => IO.println usage
  | .misuse => IO.eprintln usage
  | .manifest => IO.println InstallationResource.manifest.compact
  | .refused _ | .broken => return
  | .started config announced => do
    if announced then IO.println (startText config)

end ShardOperator

open ShardOperator in
def main (words : List String) : IO UInt32 := do
  let env : Environment := {
    config := ← IO.getEnv "CHOP_CONFIG"
    watchNamespaces := ← IO.getEnv "WATCH_NAMESPACES"
    log := ← IO.getEnv "RUST_LOG" }
  let launch ← Launch.ofWords env readConfig words
  launch.print
  if let some error := launch.error? then IO.eprintln ("Error: " ++ error)
  return launch.exitCode.toUInt32
