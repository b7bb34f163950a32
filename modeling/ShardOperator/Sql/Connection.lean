import ShardOperator.Error
import ShardOperator.Http.Status
import ShardOperator.Sql.Certificate
import ShardOperator.Sql.Endpoint
import ShardOperator.Sql.TabSeparated
import ShardOperator.Text.Blank
import ShardOperator.Time.Duration

namespace ShardOperator.Sql

/-- What is sent to the server of an endpoint. -/
structure HttpRequest where
  method : String
  url : String
  credentials : Option (String × String) := none
  body : String := ""
  deriving DecidableEq

/-- What comes of a request. -/
inductive HttpReply where
  | answered (status : Nat) (body : String)
  | broken
  deriving DecidableEq

/-- A connection is made when the first statement needs it. -/
structure Connection where
  endpoint : Endpoint
  connected : Bool := false
  deriving DecidableEq

/-- What bounds a statement: the time it may take, and the time after which it is called off. -/
structure Bounds where
  operation : String
  limit : Duration
  cancelAfter : Option Duration := none

def Connection.error (c : Connection) (problem : String) : OperatorError :=
  .sql c.endpoint.publicDsn problem

namespace Bounds

/-- The error of a statement that has taken some time, if that is too much. -/
def check (b : Bounds) (c : Connection) (spent : Duration) : Outcome Unit :=
  let cancelled := match b.cancelAfter with
    | some limit => limit.millis < spent.millis && limit.millis ≤ b.limit.millis
    | none => false
  if cancelled then .error (.cancelled b.operation)
  else if b.limit.millis < spent.millis then
    .error (c.error (b.operation ++ " timed out after " ++ b.limit.text))
  else .ok ()

end Bounds

namespace Connection

variable {m : Type → Type} [Monad m]

/-- How a request goes out; the reply comes with the time that it took. -/
abbrev Send (m : Type → Type) := HttpRequest → m (HttpReply × Duration)

def pingRequest (c : Connection) : HttpRequest :=
  { method := "GET", url := c.endpoint.baseUrl ++ "/ping" }

def statementRequest (c : Connection) (sql : String) : HttpRequest :=
  let access := c.endpoint.access
  let credentials :=
    if access.username = "" then none else some (access.username, access.password)
  { method := "POST", url := c.endpoint.baseUrl ++ "/", credentials, body := sql }

/-- What the server's certificate is checked against has to make sense. -/
def verifyTrust (c : Connection) : Outcome Unit :=
  match c.endpoint.access.rootCa with
  | some bundle =>
    if isTrustBundle bundle then .ok () else .error (c.error "failed to build client:")
  | none => .ok ()

def readPing (c : Connection) (reply : HttpReply) : Outcome Unit :=
  match reply with
  | .broken => .error (c.error "ping failed:")
  | .answered status _ =>
    if Http.isSuccess status then .ok ()
    else .error (c.error ("ping returned " ++ Http.statusText status))

/-- Makes the connection unless it is there. The answer tells how much time is spent. -/
def connect (send : Send m) (b : Bounds) (c : Connection) :
    m (Outcome Duration × Connection) := do
  if c.connected then return (.ok ⟨0⟩, c)
  if let .error e := c.verifyTrust then return (.error e, c)
  let (reply, spent) ← send c.pingRequest
  let patience := Duration.ofSecs c.endpoint.access.connectTimeoutSecs
  let shown : Duration := ⟨min spent.millis (patience.millis + 1)⟩
  if let .error e := b.check c shown then return (.error e, c)
  if patience.millis < spent.millis then return (.error (c.error "ping timed out"), c)
  match c.readPing reply with
  | .ok _ => return (.ok spent, { c with connected := true })
  | .error e => return (.error e, c)

def readReply (c : Connection) : HttpReply → Outcome String
  | .broken => .error (c.error "error")
  | .answered status body =>
    if Http.isSuccess status then .ok body
    else .error (c.error (Http.statusText status ++ ": " ++ Text.trim body))

/-- Sends a statement and gives back what the server writes. -/
def post (send : Send m) (b : Bounds) (c : Connection) (sql : String) :
    m (Outcome String × Connection) := do
  match ← c.connect send b with
  | (.error e, c) => return (.error e, c)
  | (.ok spent, c) =>
    let (reply, more) ← send (c.statementRequest sql)
    match b.check c ⟨spent.millis + more.millis⟩ with
    | .error e => return (.error e, c)
    | .ok _ => return (c.readReply reply, c)

/-- Runs a statement. One that is blank is done without the server, and one that is called off
beforehand is not begun. -/
def run {α : Type} (send : Send m) (b : Bounds) (c : Connection) (sql : String) (nothing : α)
    (read : String → α) : m (Outcome α × Connection) := do
  if Text.trim sql = "" then return (.ok nothing, c)
  if b.cancelAfter = some ⟨0⟩ then return (.error (.cancelled b.operation), c)
  let (outcome, c) ← c.post send b sql
  return (read <$> outcome, c)

def defaultLimit (c : Connection) : Duration := .ofSecs c.endpoint.access.queryTimeoutSecs

/-- Runs a statement for its effect. -/
def exec (send : Send m) (c : Connection) (sql : String) (limit cancelAfter : Option Duration) :
    m (Outcome Unit × Connection) :=
  c.run send ⟨"exec", limit.getD c.defaultLimit, cancelAfter⟩ sql () (fun _ => ())

/-- Runs a query for its rows. -/
def query (send : Send m) (c : Connection) (sql : String) (cancelAfter : Option Duration) :
    m (Outcome Rows × Connection) :=
  c.run send ⟨"query", c.defaultLimit, cancelAfter⟩ sql [] TabSeparated.parse

end Connection

/-- Lets a server forget which addresses its peers had. -/
def dropDnsCache : String := "SYSTEM DROP DNS CACHE"

end ShardOperator.Sql
