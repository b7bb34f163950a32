import ShardOperator.Config.Document
import ShardOperator.Text.Pieces
import ShardOperator.Yaml.Scalar

namespace ShardOperator

/-- A YAML node. Nodes that are marked have numbers, and an alias stands for the node with its
number. -/
inductive Yaml where
  | scalar (style : Yaml.ScalarStyle) (tag : Option String) (text : String)
  | list (items : List Yaml)
  | map (entries : List (Yaml × Yaml))
  | marked (number : Nat) (node : Yaml)
  | alias (number : Nat)

namespace Yaml

/-- What a value is that nobody has written. -/
def empty : Yaml := .scalar .plain none ""

instance : Inhabited Yaml := ⟨empty⟩

mutual

/-- The marked nodes with their numbers, in the order in which they start. -/
def places : Yaml → List (Nat × Yaml)
  | .scalar .. | .alias _ => []
  | .list items => placesOfItems items
  | .map entries => placesOfEntries entries
  | .marked number node => (number, node) :: places node

def placesOfItems : List Yaml → List (Nat × Yaml)
  | [] => []
  | item :: rest => places item ++ placesOfItems rest

def placesOfEntries : List (Yaml × Yaml) → List (Nat × Yaml)
  | [] => []
  | (key, value) :: rest => places key ++ places value ++ placesOfEntries rest

end

/-- A node of a document, with the marked nodes of the document. -/
structure Part where
  marks : List (Nat × Yaml)
  node : Yaml

def whole (node : Yaml) : Part := ⟨node.places, node⟩

/-- The node without its mark, or the node that it is an alias of. Of several nodes with one number
the last one counts. -/
def Part.resolved (p : Part) : Yaml :=
  let node := match p.node with
    | .alias number => (p.marks.reverse.lookup number).getD p.node
    | node => node
  match node with
  | .marked _ node => node
  | node => node

def Part.with (p : Part) (node : Yaml) : Part := { p with node }

def isNull (text : String) : Bool := ["null", "Null", "NULL", "~"].contains text

def boolOf? (text : String) : Option Bool :=
  if ["true", "True", "TRUE"].contains text then some true
  else if ["false", "False", "FALSE"].contains text then some false
  else none

def digit? (base : Nat) (c : Char) : Option Nat := (Json.hexValue? c).filter (· < base)

def digits? (base : Nat) (cs : List Char) : Option Nat :=
  if cs.isEmpty then none
  else (cs.mapM (digit? base)).map (·.foldl (fun n d => n * base + d) 0)

/-- A number in one of the bases that have a mark, or a decimal one without leading zeros. -/
def natOf? : List Char → Option Nat
  | '0' :: 'x' :: rest => digits? 16 rest
  | '0' :: 'o' :: rest => digits? 8 rest
  | '0' :: 'b' :: rest => digits? 2 rest
  | ['0'] => some 0
  | '0' :: _ => none
  | cs => digits? 10 cs

/-- A minus sign only where negative numbers are possible at all. -/
def intOf? (signed : Bool) : List Char → Option Int
  | '+' :: rest => (natOf? rest).map Int.ofNat
  | '-' :: rest => if signed then (natOf? rest).map (fun n => -(n : Int)) else none
  | cs => (natOf? cs).map Int.ofNat

/-- The full name of a type. -/
def typeTag (name : String) : String := "tag:yaml.org,2002:" ++ name

/-- Where a scalar may mean something else than text: where it is plain, and in a literal block that
has the tag of the type. -/
def meant? (type : String) : Yaml → Option String
  | .scalar .plain _ text => some text
  | .scalar .literal (some tag) text => if tag = typeTag type then some text else none
  | _ => none

/-- The text of a scalar of any kind. -/
def text? : Yaml → Option String
  | .scalar _ _ text => some text
  | _ => none

/-- A value that may be left out. A plain scalar without a tag stands for nothing if it is empty or
says so; one with the tag of nothing has to say so. -/
def isGiven? : Yaml → Option Bool
  | .scalar .plain none text => some (text ≠ "" && !isNull text)
  | .scalar .plain (some tag) text =>
    if tag ≠ typeTag "null" then some true else if isNull text then some false else none
  | _ => some true

end Yaml

/-- A record is a mapping with each declared key at most once, or nothing at all. Any scalar is
text; numbers and truth values are plain. -/
instance : Document Yaml.Part where
  record? declared p := match p.resolved with
    | .map entries => do
      let fields ← entries.mapM fun e => do some (← (p.with e.1).resolved.text?, p.with e.2)
      if ((fields.map (·.1)).filter declared.contains).Nodup then some fields else none
    | .scalar .plain _ "" => some []
    | _ => none
  text? p := p.resolved.text?
  bool? p := (p.resolved.meant? "bool").bind Yaml.boolOf?
  int? low high p := do
    let n ← Yaml.intOf? (low < 0) (← p.resolved.meant? "int").toList
    if low ≤ n ∧ n ≤ high then some n else none
  list? p := match p.resolved with
    | .list items => some (items.map p.with)
    | .scalar .plain _ "" => some []
    | _ => none
  option? p := p.resolved.isGiven?.map fun given => if given then some p else none

end ShardOperator
