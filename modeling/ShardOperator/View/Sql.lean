import ShardOperator.Json.Fields
import ShardOperator.Sql.Endpoint

namespace ShardOperator.Sql

/-- The times are in seconds. -/
def Endpoint.toJson (e : Endpoint) : Json := .obj [
  ("scheme", .str e.access.scheme), ("hostname", .str e.hostname),
  ("port", .ofNat e.access.port), ("username", .str e.access.username),
  ("rootCa", .ofOption .str e.access.rootCa), ("connect", .ofNat e.access.connectTimeoutSecs),
  ("query", .ofNat e.access.queryTimeoutSecs), ("dsn", .str e.dsn),
  ("hidden", .str e.publicDsn), ("debug", .str e.publicDsn)]

end ShardOperator.Sql
