import ShardOperator.Api.Reply
import ShardOperator.Json.Parts
import ShardOperator.Work.Watch

namespace ShardOperator

/-- What an API server says on a watch. -/
inductive WatchLine where
  | applied (chi : InstallationResource)
  | deleted (chi : InstallationResource)
  /-- The version up to which all has been said. -/
  | bookmark (version : String)
  | refused (refusal : Refusal)
  /-- None of these. -/
  | garbled

/-- What a line comes to for the one who watches. -/
inductive WatchTurn where
  | news (event : WatchEvent)
  | nothing
  /-- The watch goes on after a delay. -/
  | failed
  /-- The watch has lost its place, and begins again with a listing. -/
  | lost

namespace WatchLine

def marked? (metadata : Json) : Option String := do
  let f ← metadata.record? ["resourceVersion", "annotations"]
  let _ ← f.defaulted "annotations" .empty (Json.map? Json.text?)
  f.required "resourceVersion" Json.text?

/-- Only an object is a bookmark. -/
def bookmark? (value : Json) : Option String := do
  let _ ← value.object?
  let f ← value.record? ["apiVersion", "kind", "metadata"]
  let _ ← f.required "apiVersion" Json.text?
  let _ ← f.required "kind" Json.text?
  f.required "metadata" marked?

/-- Reads a line: its type, and the object that the type is said of. -/
def ofJson (line : Json) : WatchLine :=
  let object := line.part "object"
  let read : Option WatchLine := match line.textPart "type" with
    | "ADDED" | "MODIFIED" => (InstallationResource.ofJson? object).map applied
    | "DELETED" => (InstallationResource.ofJson? object).map deleted
    | "BOOKMARK" => (bookmark? object).map bookmark
    | "ERROR" => (Refusal.ofJson? object).map refused
    | _ => none
  read.getD garbled

/-- The place of a watch is the version of the last object it was told of. -/
def place (chi : InstallationResource) : String := chi.metadata.resourceVersion.getD ""

/-- An object without a version leaves the watch without a place, and code 410 says that the place
is too old. -/
def turn : WatchLine → WatchTurn
  | .applied chi => if place chi = "" then .lost else .news (.apply chi)
  | .deleted chi => if place chi = "" then .lost else .news (.delete chi)
  | .bookmark _ => .nothing
  | .refused refusal => if refusal.code = 410 then .lost else .failed
  | .garbled => .failed

end WatchLine

end ShardOperator
