import ShardOperator.CommandLine.Launch

namespace ShardOperator

/-- The line of the log that tells of a start. -/
def OperatorConfig.startJson (c : OperatorConfig) : Json := .obj [
  ("json", .bool c.logJson), ("workers", .ofNat c.reconcile.workers),
  ("namespaces", .str c.namespacesText), ("level", .str "INFO")]

namespace View

/-- Where the programs of a small machine find their files, and perhaps one more file. -/
def disk (file : Option (String × String)) : FileTree :=
  let names (path : String) : Place := (Text.split '/' path).filter (· ≠ "")
  let files := [("/etc/hostname", "machine"), ("/etc/hosts", "127.0.0.1 localhost"),
    ("/etc/passwd", "root:x:0:0"), ("/dev/null", ""), ("/dev/stdin", "")] ++ file.toList
  let places := files.map fun entry => (names entry.1, entry.2)
  let parents := (file.map fun entry => (names entry.1).dropLast).toList
  ⟨["work"], [["work"], ["bin"], ["boot"], ["dev"], ["etc"], ["home"], ["lib"], ["media"], ["mnt"],
    ["opt"], ["proc"], ["root"], ["run"], ["sbin"], ["srv"], ["sys"], ["tmp"], ["usr"],
    ["usr", "bin"], ["usr", "lib"], ["var"], ["var", "tmp"]] ++ parents, places⟩

end View

namespace Launch

/-- The error without what others have worded. -/
def ownError? : Launch → Option String
  | .refused (.serialization _) => some "serialization error"
  | launch => launch.error?

/-- The launch, with its error as `worded` words it. -/
def toJson (launch : Launch) (worded : String → String) : Json := .obj [
  ("code", .ofNat launch.exitCode),
  ("error", .ofOption .str (launch.ownError?.map worded)),
  ("started", match launch with
    | .started config true => config.startJson
    | _ => .null),
  ("manifest", .bool (launch = .manifest)),
  ("stdout", if launch = .version then .str versionLine else .null)]

end Launch

end ShardOperator
