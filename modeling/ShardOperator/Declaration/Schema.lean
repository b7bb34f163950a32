import ShardOperator.Json.Fields

namespace ShardOperator

/-- How a record stands to one of its fields. -/
inductive Presence where
  | required
  /-- The field may be missing, and nothing is said of what it is then. -/
  | free
  /-- The field may be missing or `null`. -/
  | nullable
  /-- A missing field has this value. -/
  | defaulted (value : Json)

def Presence.members : Presence → List (String × Json)
  | .required | .free => []
  | .nullable => [("nullable", .bool true)]
  | .defaulted value => [("default", value)]

/-- What values are declared to look like. A record says what it is about, and so does each of its
fields. -/
inductive Schema where
  | text
  | boolean
  | integer (format : String)
  | natural
  | choice (names : List String)
  /-- An object that keeps whatever it is given. -/
  | settings
  /-- An object of the platform, which knows the fields of it. -/
  | platform
  | list (items : Schema)
  | record (about : String) (fields : List (String × String × Presence × Schema))

namespace Schema

def type (name : String) : String × Json := ("type", .str name)

def about (description : String) : String × Json := ("description", .str description)

def required (fields : List (String × String × Presence × Schema)) : List (String × Json) :=
  let names := fields.filterMap fun f => match f.2.2.1 with
    | .required => some f.1
    | _ => none
  if names.isEmpty then [] else [("required", .ofTexts names)]

/-- What there is to say on its own about a value that is shown to no field. -/
def description : Schema → List (String × Json)
  | .record description _ => [about description]
  | _ => []

mutual

/-- The constraints on a value. -/
def members : Schema → List (String × Json)
  | .text => [type "string"]
  | .boolean => [type "boolean"]
  | .integer format => [type "integer", ("format", .str format)]
  | .natural => [type "integer", ("format", .str "uint32"), ("minimum", .int 0)]
  | .choice names => [type "string", ("enum", .ofTexts names)]
  | .settings => [type "object", ("x-kubernetes-preserve-unknown-fields", .bool true)]
  | .platform => [type "object"]
  | .list items => [type "array", ("items", .obj (items.description ++ members items))]
  | .record _ fields =>
    [type "object", ("properties", .obj (properties fields))] ++ required fields

/-- The fields of a record. What a field is about is said in place of what its value is about. -/
def properties : List (String × String × Presence × Schema) → List (String × Json)
  | [] => []
  | (name, description, presence, schema) :: rest =>
    let field := about description :: (presence.members ++ members schema)
    (name, .obj field) :: properties rest

end

def toJson (schema : Schema) : Json := .obj (schema.description ++ schema.members)

end Schema

end ShardOperator
