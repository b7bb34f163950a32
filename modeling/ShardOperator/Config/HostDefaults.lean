import ShardOperator.Config.Document

namespace ShardOperator

/-- What a host takes when nothing else is declared. -/
structure HostDefaults where
  tcpPort : Int32 := 9000
  httpPort : Int32 := 8123
  interserverPort : Int32 := 9009
  image : String := "clickhouse/clickhouse-server:24.3"
  logImage : String := "busybox"
  deriving DecidableEq, Inhabited

namespace HostDefaults

def declared : List String := ["tcpPort", "httpPort", "interserverHTTPPort", "image", "logImage"]

def read? {δ : Type} [Document δ] (value : δ) : Option HostDefaults := do
  let f ← Document.record? declared value
  let d : HostDefaults := {}
  some {
    tcpPort := ← Document.field f "tcpPort" d.tcpPort Document.int32?
    httpPort := ← Document.field f "httpPort" d.httpPort Document.int32?
    interserverPort := ← Document.field f "interserverHTTPPort" d.interserverPort Document.int32?
    image := ← Document.field f "image" d.image Document.text?
    logImage := ← Document.field f "logImage" d.logImage Document.text? }

def toJson (d : HostDefaults) : Json := .obj [
  ("tcpPort", .ofInt32 d.tcpPort),
  ("httpPort", .ofInt32 d.httpPort),
  ("interserverHTTPPort", .ofInt32 d.interserverPort),
  ("image", .str d.image),
  ("logImage", .str d.logImage)]

end HostDefaults

end ShardOperator
