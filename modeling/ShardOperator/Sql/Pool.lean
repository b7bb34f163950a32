import ShardOperator.Data.Table
import ShardOperator.Sql.Connection

namespace ShardOperator.Sql

/-- Connections that are kept for their endpoints. Each connection has the number of those made
before it. -/
structure Pool where
  connections : Table Endpoint (Nat × Connection) := {}
  made : Nat := 0

namespace Pool

instance : Inhabited Pool := ⟨{}⟩

/-- The connection to an endpoint, which is made when it is not there. -/
def get (p : Pool) (e : Endpoint) : (Nat × Connection) × Pool :=
  match p.connections.find? e with
  | some entry => (entry, p)
  | none =>
    let entry := (p.made, { endpoint := e })
    (entry, { connections := p.connections.insert e entry, made := p.made + 1 })

/-- Keeps what has become of a connection. -/
def update (p : Pool) (number : Nat) (c : Connection) : Pool :=
  { p with connections := p.connections.insert c.endpoint (number, c) }

/-- Lets go of every connection to a host, and tells how many there were. -/
def evict (p : Pool) (hostname : String) : Nat × Pool :=
  let kept := p.connections.entries.filter (·.1.hostname ≠ hostname)
  (p.connections.size - kept.length, { p with connections := ⟨kept⟩ })

def size (p : Pool) : Nat := p.connections.size

def isEmpty (p : Pool) : Bool := p.connections.isEmpty

end Pool

end ShardOperator.Sql
