import ShardOperator.Error
import ShardOperator.Json.Fields

namespace ShardOperator.OperatorError

def kindName : OperatorError → String
  | .unclassified .. => "Kube"
  | .notFound .. => "NotFound"
  | .immutableField .. => "ImmutableField"
  | .invalid .. => "Validation"
  | .platform .. => "Platform"
  | .sql .. => "Sql"
  | .serialization .. => "Serialization"
  | .configuration .. => "Config"
  | .cancelled .. => "Cancelled"
  | .internal .. => "Internal"

/-- The message is all the error's own; where no server and no rule of the operator has worded it,
none is shown. -/
def isWorded : OperatorError → Bool
  | .serialization _ => false
  | .unclassified (.broken _) => false
  | .platform _ _ _ _ (.broken _) => false
  | _ => true

def view (e : OperatorError) : List (String × Json) :=
  ("error", .str e.kindName) :: if e.isWorded then [("message", .str e.message)] else []

def toJson (e : OperatorError) : Json := .obj e.view

/-- The error with what follows from it for later attempts. -/
def toFullJson (e : OperatorError) : Json :=
  .obj (e.view ++ [("not_found", .bool e.isNotFound), ("retryable", .bool e.isRetryable)])

end ShardOperator.OperatorError
