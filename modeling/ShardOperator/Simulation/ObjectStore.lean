import ShardOperator.Platform.Call
import ShardOperator.Text.Pieces

namespace ShardOperator

namespace Labels

/-- A term of a query asks for one label, with its key before the first equals sign. -/
def meets (labels : Labels) (term : String) : Bool :=
  match term.toList.span (· ≠ '=') with
  | (_, []) => false
  | (key, _ :: value) => labels.find? (String.ofList key) = some (String.ofList value)

/-- The labels have all that a query asks for, its terms being what stands between commas. -/
def meetAll (labels : Labels) (query : String) : Bool :=
  ((Text.split ',' query).filter (· ≠ "")).all labels.meets

end Labels

namespace Simulation

/-- The objects of one kind, by namespace and name. Each write takes the next number, and an object
has the number of its last write for its resource version. -/
structure ObjectStore (kind : Kind) where
  shelves : SortedMap (SortedMap (Resource kind)) := .empty
  writes : Nat := 0
  deriving DecidableEq

namespace ObjectStore

variable {kind : Kind}

instance : Inhabited (ObjectStore kind) := ⟨{}⟩

def shelf (s : ObjectStore kind) (ns : String) : SortedMap (Resource kind) :=
  (s.shelves.find? ns).getD .empty

def find? (s : ObjectStore kind) (ns name : String) : Option (Resource kind) :=
  (s.shelf ns).find? name

def put (s : ObjectStore kind) (object : Resource kind) : ObjectStore kind :=
  let writes := s.writes + 1
  let metadata := { object.metadata with resourceVersion := some (toString writes) }
  let shelf := (s.shelf object.ns).insert object.name { object with metadata }
  { shelves := s.shelves.insert object.ns shelf, writes }

def erase (s : ObjectStore kind) (ns name : String) : ObjectStore kind :=
  { s with shelves := s.shelves.insert ns ((s.shelf ns).erase name) }

def objects (s : ObjectStore kind) : List (Resource kind) := s.shelves.values.flatMap (·.values)

/-- The objects of a namespace that a query asks for, by name. -/
def select (s : ObjectStore kind) (ns query : String) : List (Resource kind) :=
  (s.shelf ns).values.filter fun object =>
    Labels.meetAll (object.metadata.labels.getD .empty) query

end ObjectStore

end Simulation

end ShardOperator
