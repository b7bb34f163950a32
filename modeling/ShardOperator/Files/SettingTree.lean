import ShardOperator.Settings.Basic

namespace ShardOperator

/-- Settings by the segments of their paths, the children of a node in ascending order. -/
inductive SettingTree where
  | node (value : Option Setting) (children : List (String × SettingTree))

namespace SettingTree

def empty : SettingTree := .node none []

def value? : SettingTree → Option Setting
  | .node value _ => value

def children : SettingTree → List (String × SettingTree)
  | .node _ children => children

/-- Changes the child of a name, which is made if it is missing. -/
def updateChild (name : String) (f : SettingTree → SettingTree) :
    List (String × SettingTree) → List (String × SettingTree)
  | [] => [(name, f empty)]
  | child :: rest =>
    if name < child.1 then (name, f empty) :: child :: rest
    else if child.1 < name then child :: updateChild name f rest
    else (name, f child.2) :: rest

def insert (setting : Setting) : List String → SettingTree → SettingTree
  | [], .node _ children => .node (some setting) children
  | name :: rest, .node value children =>
    .node value (updateChild name (insert setting rest) children)

def ofSettings (s : Settings) : SettingTree :=
  s.entries.entries.foldl (fun tree entry => tree.insert entry.2 (Text.split '/' entry.1)) empty

end SettingTree

end ShardOperator
