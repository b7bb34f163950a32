import ShardOperator.Text.Hidden

namespace ShardOperator

/-- What the API server says about a request that it refuses. -/
structure Refusal where
  status : String
  message : String
  reason : String
  code : Nat
  deriving DecidableEq, Inhabited

def Refusal.text (r : Refusal) : String :=
  "ApiError: " ++ r.message ++ ": " ++ r.reason ++ " (ErrorResponse \x7b status: " ++
    Text.quote r.status ++ ", message: " ++ Text.quote r.message ++ ", reason: " ++
    Text.quote r.reason ++ ", code: " ++ toString r.code ++ " \x7d)"

/-- Why a call to the API server has no result: the server refuses it, or there is no answer that
can be read. -/
inductive CallFailure where
  | refused (refusal : Refusal)
  | broken (detail : String)
  deriving DecidableEq

def CallFailure.text : CallFailure → String
  | .refused refusal => refusal.text
  | .broken detail => detail

def CallFailure.code? : CallFailure → Option Nat
  | .refused refusal => some refusal.code
  | .broken _ => none

inductive OperatorError where
  | unclassified (source : CallFailure)
  | notFound (kind ns name : String)
  | immutableField (kind ns name change : String)
  | invalid (object problem : String)
  | platform (kind operation ns name : String) (source : CallFailure)
  | sql (dsn problem : String)
  | serialization (detail : String)
  | configuration (problem : String)
  | cancelled (operation : String)
  | internal (context problem : String)
  deriving DecidableEq

namespace OperatorError

/-- Classifies a failed platform call: a refusal with code 404 says that the object is missing. -/
def ofCall (kind operation ns name : String) (source : CallFailure) : OperatorError :=
  if source.code? = some 404 then .notFound kind ns name
  else .platform kind operation ns name source

def message : OperatorError → String
  | .unclassified source => "kubernetes error: " ++ source.text
  | .notFound kind ns name => kind ++ " " ++ ns ++ "/" ++ name ++ " not found"
  | .immutableField kind ns name change =>
    "immutable field change on " ++ kind ++ " " ++ ns ++ "/" ++ name ++ ": " ++ change
  | .invalid object problem => "validation error for " ++ object ++ ": " ++ problem
  | .platform kind operation ns name source =>
    operation ++ " " ++ kind ++ " " ++ ns ++ "/" ++ name ++ " failed: " ++ source.text
  | .sql dsn problem => "sql error on " ++ dsn ++ ": " ++ problem
  | .serialization detail => "serialization error: " ++ detail
  | .configuration problem => "configuration error: " ++ problem
  | .cancelled operation => operation ++ " cancelled"
  | .internal context problem => "internal error [" ++ context ++ "]: " ++ problem

def isNotFound : OperatorError → Bool
  | .notFound .. => true
  | .unclassified source => source.code? = some 404
  | _ => false

/-- A later attempt may succeed: not after errors that need another spec or configuration, and not
after a request that the server refuses as the client's fault. -/
def isRetryable : OperatorError → Bool
  | .unclassified source | .platform _ _ _ _ source =>
    match source.code? with
    | some code => code < 400 || 500 ≤ code
    | none => true
  | .notFound .. | .immutableField .. | .sql .. | .cancelled .. => true
  | .invalid .. | .serialization .. | .configuration .. | .internal .. => false

def isCancelled : OperatorError → Bool
  | .cancelled _ => true
  | _ => false

end OperatorError

/-- The outcome of an operation that may fail. -/
abbrev Outcome (α : Type) := Except OperatorError α

end ShardOperator
