import ShardOperator.Text.Pieces

namespace ShardOperator

/-- Why a file cannot be read. -/
inductive ReadFault where
  | missing
  | notDirectory
  | directory
  | nameTooLong
  | other (detail : String)
  deriving DecidableEq

def ReadFault.text : ReadFault → String
  | .missing => "No such file or directory (os error 2)"
  | .notDirectory => "Not a directory (os error 20)"
  | .directory => "Is a directory (os error 21)"
  | .nameTooLong => "File name too long (os error 36)"
  | .other detail => detail

/-- The names on the way from the root to a directory or a file. -/
abbrev Place := List String

/-- Directories below the root, and files with what they hold. A path that does not begin at the
root begins at `home`. -/
structure FileTree where
  home : Place
  directories : List Place
  files : List (Place × String)
  deriving DecidableEq, Inhabited

namespace FileTree

def isDirectory (t : FileTree) (place : Place) : Bool :=
  place.isEmpty || t.directories.contains place

def content? (t : FileTree) (place : Place) : Option String := t.files.lookup place

/-- One name further. Only a directory has anything below it, be the name empty. -/
def step (t : FileTree) (place : Place) (name : String) : Except ReadFault Place :=
  let next := place ++ [name]
  if !t.isDirectory place then .error .notDirectory
  else if name = "" ∨ name = "." then .ok place
  else if name = ".." then .ok place.dropLast
  else if 255 < name.utf8ByteSize then .error .nameTooLong
  else if t.isDirectory next || (t.content? next).isSome then .ok next
  else .error .missing

/-- Where a path leads. -/
def place (t : FileTree) (path : String) : Except ReadFault Place :=
  if path = "" then .error .missing
  else if 4096 ≤ path.utf8ByteSize then .error .nameTooLong
  else (Text.split '/' path).foldlM t.step (if Text.startsWith "/" path then [] else t.home)

def read (t : FileTree) (path : String) : Except ReadFault String := do
  let place ← t.place path
  match t.content? place with
  | some content => return content
  | none => throw .directory

end FileTree

end ShardOperator
