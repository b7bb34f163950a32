import ShardOperator.Api.Reply
import ShardOperator.Api.Request
import ShardOperator.Time.Duration

namespace ShardOperator

/-- A request that is made, the words for it in messages, and how its answer is read. -/
structure ApiCall (α : Type) where
  operation : String
  kind : String
  ns : String
  name : String
  request : Option ApiRequest
  decode : Json → Option α

/-- When a call is called off. -/
inductive CallOff where
  | never
  | beforehand
  | after (time : Duration)
  deriving DecidableEq

def CallOff.isBefore (o : CallOff) (millis : Nat) : Bool :=
  match o with
  | never => false
  | beforehand => true
  | after time => time.millis < millis

namespace ApiCall

variable {α : Type}

def description (c : ApiCall α) : String :=
  c.operation ++ " " ++ c.kind ++ " " ++ c.ns ++ "/" ++ c.name

def failed (c : ApiCall α) (source : CallFailure) : OperatorError :=
  .ofCall c.kind c.operation c.ns c.name source

def read (c : ApiCall α) (reply : ApiReply) : Outcome α :=
  match reply.read c.decode with
  | .ok value => .ok value
  | .error source => .error (c.failed source)

/-- Makes a call for as long as it takes. -/
def perform (c : ApiCall α) (reply : ApiReply) : Outcome α × List ApiRequest :=
  match c.request with
  | none => (.error (c.failed (.broken "the request cannot be written")), [])
  | some request => (c.read reply, [request])

/-- Makes a call that may take some time and that is called off after some other time, if it is at
all. A call that has no time at all ends before it reaches the server. -/
def performWithin (c : ApiCall α) (limit : Duration) (callOff : CallOff) (reply : ApiReply) :
    Outcome α × List ApiRequest :=
  let cancelled : OperatorError := .cancelled c.description
  let late : OperatorError := .cancelled (c.description ++ " after " ++ limit.text)
  match callOff, c.request with
  | .beforehand, _ => (.error cancelled, [])
  | _, none => c.perform reply
  | callOff, some request =>
    if limit.millis = 0 then (.error late, [])
    else if callOff.isBefore reply.delayMillis && callOff.isBefore limit.millis then
      (.error cancelled, [request])
    else if limit.millis < reply.delayMillis then (.error late, [request])
    else c.perform reply

def get (kind : Kind) (ns name : String) : ApiCall (Resource kind) where
  operation := Verb.get.text
  kind := kind.text
  ns
  name
  request := ApiRequest.get? kind ns name
  decode := Resource.ofJson? kind

def create {kind : Kind} (object : Resource kind) : ApiCall (Resource kind) where
  operation := Verb.create.text
  kind := kind.text
  ns := object.ns
  name := object.name
  request := ApiRequest.create? object
  decode := Resource.ofJson? kind

def update {kind : Kind} (object : Resource kind) : ApiCall (Resource kind) where
  operation := Verb.update.text
  kind := kind.text
  ns := object.ns
  name := object.name
  request := ApiRequest.replace? object
  decode := Resource.ofJson? kind

def delete (kind : Kind) (ns name : String) : ApiCall Unit where
  operation := Verb.delete.text
  kind := kind.text
  ns
  name
  request := ApiRequest.delete? kind ns name
  decode := ApiReply.deletion? kind

/-- A listing has no name in messages. -/
def list (kind : Kind) (ns selector : String) : ApiCall (List (Resource kind)) where
  operation := Verb.list.text
  kind := kind.text
  ns
  name := ""
  request := ApiRequest.list? kind ns selector
  decode := ApiReply.listing? kind

def patchStatus (ns name : String) (status : InstallationStatus) : ApiCall Unit where
  operation := "patch status"
  kind := InstallationResource.kindName
  ns
  name
  request := ApiRequest.patchStatus? ns name status
  decode := fun value => (InstallationResource.ofJson? value).map fun _ => ()

end ApiCall

end ShardOperator
