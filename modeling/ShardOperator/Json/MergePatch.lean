import ShardOperator.Json.Basic

namespace ShardOperator.Json

def eraseField (key : String) (fields : List (String × Json)) : List (String × Json) :=
  fields.filter (fun f => f.1 ≠ key)

def fieldsOf : Json → List (String × Json)
  | .obj fields => fields
  | _ => []

mutual

/-- An object patches field by field, `null` taking a field away; any other patch is the result. -/
def mergePatch (target : Json) : Json → Json
  | .obj patch => .obj (mergeFields (fieldsOf target) patch)
  | patch => patch

def mergeFields (target : List (String × Json)) : List (String × Json) → List (String × Json)
  | [] => target
  | (key, .null) :: rest => mergeFields (eraseField key target) rest
  | (key, patch) :: rest =>
    mergeFields (setField key (mergePatch ((target.lookup key).getD .null) patch) target) rest

end

end ShardOperator.Json
