import ShardOperator.Declaration.Installation
import ShardOperator.Error
import ShardOperator.Http.Status
import ShardOperator.Json.Reader
import ShardOperator.Platform.Resource
import ShardOperator.Text.Hidden

namespace ShardOperator

/-- What an API server answers, after some time. -/
structure ApiReply where
  code : Nat := 200
  body : String := "\x7b\x7d"
  delayMillis : Nat := 0

instance : Inhabited ApiReply := ⟨{}⟩

namespace Refusal

def declared : List String := ["status", "message", "reason", "code"]

/-- A refusal says at least a status and a code. -/
def ofJson? (value : Json) : Option Refusal := do
  let f ← value.record? declared
  some {
    status := ← f.required "status" Json.text?
    message := ← f.defaulted "message" "" Json.text?
    reason := ← f.defaulted "reason" "" Json.text?
    code := (← f.required "code" Json.uint16?).toNat }

/-- What is said of a failure whose body is no refusal. -/
def ofBody (code : Nat) (body : String) : Refusal :=
  { status := Http.statusText code, message := Text.quote body
    reason := "Failed to parse error data", code }

end Refusal

namespace ApiReply

variable {α : Type}

/-- Reads the body of a reply, unless the reply says that the request has failed. -/
def read (reply : ApiReply) (decode : Json → Option α) : Except CallFailure α :=
  let body := Json.written? reply.body
  if Http.isFailure reply.code then
    .error (.refused ((body.bind Refusal.ofJson?).getD (.ofBody reply.code reply.body)))
  else
    match body.bind decode with
    | some value => .ok value
    | none => .error (.broken "the answer does not decode")

/-- The metadata of a listing. -/
def isListMetadata (value : Json) : Bool :=
  let read := do
    let f ← value.object?
    let _ ← f.optional "continue" Json.text?
    let _ ← f.optional "remainingItemCount" Json.int64?
    let _ ← f.optional "resourceVersion" Json.text?
    f.optional "selfLink" Json.text?
  read.isSome

def listKeys : List String := ["metadata", "items"]

/-- A listing gives its metadata and its items once, if at all. All that it says besides has to be
readable. -/
def listing? (kind : Kind) (value : Json) : Option (List (Resource kind)) := do
  let f ← (← value.object?).filterMapM fun field =>
    if listKeys.contains field.1 then some (some field) else field.2.settled?.map fun _ => none
  let f ← (Json.obj f).record? listKeys
  let _ ← f.defaulted "metadata" () fun value => if isListMetadata value then some () else none
  f.required "items" fun value =>
    match value with
    | .null => some []
    | items => items.list? (Resource.ofJson? kind)

/-- What a report on a deletion says of its outcome. -/
def isOutcome (value : Json) : Bool :=
  match value with
  | .null => true
  | .str name | .obj [(name, .null)] => ["Success", "Failure"].contains name
  | _ => false

/-- Texts that may be missing. -/
def haveTexts (fields : Fields) (keys : List String) : Option Unit :=
  keys.forM fun key => (fields.defaulted key "" Json.text?).map fun _ => ()

def causeKeys : List String := ["reason", "message", "field"]

def detailKeys : List String := ["name", "group", "kind", "uid", "causes", "retryAfterSeconds"]

def reportKeys : List String := ["status", "code", "message", "reason", "details"]

def cause? (value : Json) : Option Unit := do haveTexts (← value.record? causeKeys) causeKeys

def details? (value : Json) : Option Unit := do
  let f ← value.record? detailKeys
  haveTexts f ["name", "group", "kind", "uid"]
  let _ ← f.defaulted "causes" [] (Json.list? cause?)
  let _ ← f.defaulted "retryAfterSeconds" 0 Json.uint32?

/-- A report on a deletion. -/
def report? (value : Json) : Option Unit := do
  let f ← value.record? reportKeys
  let _ ← f.defaulted "status" () fun value => if isOutcome value then some () else none
  let _ ← f.defaulted "code" 0 Json.uint16?
  haveTexts f ["message", "reason"]
  let _ ← f.optional "details" details?

/-- A deletion is answered by a report, or by the object that is going. The answer has to be
readable in every part. -/
def deletion? (kind : Kind) (value : Json) : Option Unit := do
  if (← value.settled?).field? "kind" = some (.str "Status") then report? value
  else (Resource.ofJson? kind value).map fun _ => ()

end ApiReply

end ShardOperator
