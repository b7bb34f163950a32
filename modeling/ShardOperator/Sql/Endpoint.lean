import ShardOperator.Config.Access

namespace ShardOperator.Sql

/-- A host together with the way to reach it. -/
structure Endpoint where
  hostname : String
  access : AccessConfig
  deriving DecidableEq, Inhabited

namespace Endpoint

def authority (e : Endpoint) : String := e.hostname ++ ":" ++ toString e.access.port

def baseUrl (e : Endpoint) : String := e.access.scheme ++ "://" ++ e.authority

/-- Without a user there are no credentials to name. -/
def dsnWith (e : Endpoint) (password : String) : String :=
  if e.access.username = "" then e.baseUrl ++ "/"
  else
    e.access.scheme ++ "://" ++ e.access.username ++ ":" ++ password ++ "@" ++ e.authority ++ "/"

def dsn (e : Endpoint) : String := e.dsnWith e.access.password

/-- The name of the endpoint in messages, which keeps the password to itself. -/
def publicDsn (e : Endpoint) : String := e.dsnWith "***"

end Endpoint

end ShardOperator.Sql
