import ShardOperator.Settings.Path
import ShardOperator.Settings.Value

namespace ShardOperator

/-- Settings by path. -/
structure Settings where
  entries : SortedMap Setting
  deriving DecidableEq, Inhabited

/-- Whose value stays when both sides have a path. -/
inductive MergePolicy where
  | fillEmpty
  | override
  deriving DecidableEq

/-- Of two values that are both set the policy chooses; one that is set alone stays. -/
def MergePolicy.pick {β : Type} (policy : MergePolicy) (own source : Option β) : Option β :=
  match policy with
  | .fillEmpty => own.or source
  | .override => source.or own

namespace Settings

def empty : Settings := ⟨.empty⟩

def isEmpty (s : Settings) : Bool := s.entries.isEmpty

def size (s : Settings) : Nat := s.entries.size

def get? (s : Settings) (path : String) : Option Setting := s.entries.find? (canonical path)

def has (s : Settings) (path : String) : Bool := (s.get? path).isSome

def set (s : Settings) (path : String) (value : Setting) : Settings :=
  ⟨s.entries.insert (canonical path) value⟩

/-- Sets the pairs in order. -/
def ofPairs (pairs : List (String × Setting)) : Settings :=
  pairs.foldl (fun s p => s.set p.1 p.2) empty

def merge (s source : Settings) : MergePolicy → Settings
  | .fillEmpty => ⟨s.entries.fill source.entries⟩
  | .override => ⟨s.entries.override source.entries⟩

/-- Fills in the entries of `source` that `accepts` lets pass. -/
def mergeIf (s source : Settings) (accepts : String → Setting → Bool) : Settings :=
  ⟨source.entries.entries.foldl (fun own entry =>
    if accepts entry.1 entry.2 && !own.contains entry.1 then own.insert entry.1 entry.2
    else own) s.entries⟩

/-- The host files of the level above, where this level has no entry of its own. -/
def inheritHostFiles (s parent : Settings) : Settings :=
  s.mergeIf parent (fun path _ => Section.isHost path)

/-- The scalar entries of a section by file name; of two entries for one name the later path stays.
Paths that name no section belong to every section when `unspecified` is set. -/
def files (s : Settings) (target : Section) (unspecified : Bool) : SortedMap String :=
  SortedMap.ofList <| s.entries.entries.filterMap fun entry =>
    let belongs := match Section.ofPath entry.1 with
      | .ok found => decide (found = target)
      | .error _ => unspecified
    if belongs then
      match fileName? entry.1, entry.2.scalar? with
      | some name, some content => some (name, content)
      | _, _ => none
    else none

/-- Raw keys are read in ascending order, so of two spellings of one path the greater wins. -/
def ofJson? (value : Json) : Option Settings :=
  (value.map? Setting.ofJson?).map fun raw => ofPairs raw.entries

def toJson (s : Settings) : Json := .ofMap Setting.toJson s.entries

end Settings

end ShardOperator
