import ShardOperator.Proofs.Files.Listing

namespace ShardOperator.Xml

/-- An element of a document: with a text, or with elements below it and perhaps an attribute. -/
inductive Node where
  | leaf (tag value : String)
  | branch (tag : String) (children : List Node) (attr : Option (String × String) := none)

namespace Node

def tag : Node → String
  | .leaf tag _ => tag
  | .branch tag _ _ => tag

def children : Node → List Node
  | .leaf _ _ => []
  | .branch _ children _ => children

/-- What opens an element. -/
def opening (tag : String) : Option (String × String) → Piece
  | none => .opening tag
  | some (attr, value) => .openingWith tag attr value

mutual

def pieces : Node → List Piece
  | .leaf tag value => [.element tag value]
  | .branch tag children attr => [opening tag attr] ++ piecesOf children ++ [.closing tag]

def piecesOf : List Node → List Piece
  | [] => []
  | node :: rest => node.pieces ++ piecesOf rest

end

theorem piecesOf_eq (nodes : List Node) : piecesOf nodes = nodes.flatMap pieces := by
  induction nodes with
  | nil => rfl
  | cons node rest ih => rw [piecesOf, ih, List.flatMap_cons]

theorem pieces_branch (tag : String) (children : List Node) (attr : Option (String × String)) :
    (branch tag children attr).pieces =
      [opening tag attr] ++ children.flatMap pieces ++ [.closing tag] := by
  rw [pieces, piecesOf_eq]

/-- The values of the elements with the tag, in an element and below. -/
def values (tag : String) (node : Node) : List String := valuesOf tag node.pieces

theorem values_branch (tag name : String) (children : List Node)
    (attr : Option (String × String)) :
    (branch name children attr).values tag = children.flatMap (values tag) := by
  have hopening : valuesOf tag [opening name attr] = [] := by
    cases attr <;> rfl
  rw [values, pieces_branch, valuesOf_append, valuesOf_append, hopening, valuesOf_flatMap]
  exact List.append_nil _

end Node

/-- The text of a document with the elements below its root. -/
def textOf (nodes : List Node) : String :=
  (XmlWriter.document.putAll (nodes.flatMap Node.pieces)).finish

end ShardOperator.Xml
