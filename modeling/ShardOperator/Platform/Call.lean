import ShardOperator.Platform.Resource

namespace ShardOperator

/-- What is done with the objects of a kind. -/
inductive Verb where
  | get
  | create
  | update
  | delete
  | list
  deriving DecidableEq

def Verb.all : List Verb := [.get, .create, .update, .delete, .list]

def Verb.text : Verb → String
  | .get => "get"
  | .create => "create"
  | .update => "update"
  | .delete => "delete"
  | .list => "list"

def Verb.ofText? (s : String) : Option Verb := Verb.all.find? (·.text == s)

/-- A call on the stored objects. A listing has its selector in the place of a name. -/
structure Call where
  verb : Verb
  kind : Kind
  ns : String
  name : String
  deriving DecidableEq

def Call.text (c : Call) : String :=
  c.verb.text ++ " " ++ c.kind.text ++ " " ++ c.ns ++ "/" ++ c.name

/-- The labels that objects are listed by, as a query says them. -/
def Labels.query (labels : Labels) : String :=
  ",".intercalate (labels.entries.map fun e => e.1 ++ "=" ++ e.2)

end ShardOperator
