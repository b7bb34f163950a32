import ShardOperator.Error
import ShardOperator.Text.Blank
import ShardOperator.Text.Pieces

namespace ShardOperator.Settings

/-- The canonical spelling of a path: blanks around segments and empty segments are dropped. -/
def canonical (path : String) : String :=
  Text.join "/" (((Text.split '/' path).map Text.trim).filter (· ≠ ""))

/-- Where the server looks for a file. -/
inductive Section where
  | common
  | users
  | host
  deriving DecidableEq

def Section.text : Section → String
  | .common => "Common"
  | .users => "Users"
  | .host => "Host"

/-- The section is the first segment of a path with at least two: its name in any case, or the
directory it lands in. -/
def Section.ofPath (path : String) : Outcome Section :=
  match (Text.split '/' path).filter (· ≠ "") with
  | first :: _ :: _ =>
    match Text.lowerAscii first with
    | "common" | "config.d" => .ok .common
    | "users" | "users.d" => .ok .users
    | "host" | "conf.d" => .ok .host
    | other => .error (.invalid path ("unknown file section '" ++ other ++ "'"))
  | _ => .error (.invalid path "file path has no section")

def Section.isHost (path : String) : Bool :=
  match Section.ofPath path with
  | .ok .host => true
  | _ => false

/-- The last segment, unless the path ends in a separator. -/
def fileName? (path : String) : Option String :=
  match (Text.split '/' path).getLast? with
  | none | some "" => none
  | some name => some name

end ShardOperator.Settings
