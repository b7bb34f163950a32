import ShardOperator.Topology.Host

namespace ShardOperator

/-- The hosts that a peer list leaves out: some by id, and those that share a flag. -/
structure Exclusion where
  ids : List HostId := []
  flags : HostFlags := {}
  deriving DecidableEq, Inhabited

namespace Exclusion

def none : Exclusion := {}

def excludeIds (e : Exclusion) (ids : List HostId) : Exclusion := { e with ids := e.ids ++ ids }

/-- The flags given last count. -/
def excludeFlags (e : Exclusion) (flags : HostFlags) : Exclusion := { e with flags }

def excludes (e : Exclusion) (host : Host) : Bool :=
  host.flags.intersects e.flags || e.ids.contains host.id

def includes (e : Exclusion) (host : Host) : Bool := !e.excludes host

def text (e : Exclusion) : String :=
  "exclude hosts: [" ++ Text.join "," (e.ids.map HostId.text) ++ "], attributes: " ++ e.flags.text

end Exclusion

end ShardOperator
