import ShardOperator.Topology.Installation

namespace ShardOperator

/-- The name that joins the parts of an address; the StatefulSet, the Service and the pod of a host
share it. -/
def HostAddress.workloadName (a : HostAddress) : String :=
  "chi-" ++ a.installation ++ "-" ++ a.cluster ++ "-" ++ a.shard ++ "-" ++ a.replica

def HostAddress.configMapName (a : HostAddress) : String :=
  "chi-" ++ a.installation ++ "-deploy-confd-" ++ a.cluster ++ "-" ++ a.shard ++ "-" ++ a.replica

def HostAddress.fqdn (a : HostAddress) : String :=
  a.workloadName ++ "." ++ a.ns ++ ".svc.cluster.local"

namespace Installation

def serviceName (i : Installation) : String := "clickhouse-" ++ i.name

def fqdn (i : Installation) : String := i.serviceName ++ "." ++ i.ns ++ ".svc.cluster.local"

def commonConfigMapName (i : Installation) : String := "chi-" ++ i.name ++ "-common-configd"

def usersConfigMapName (i : Installation) : String := "chi-" ++ i.name ++ "-common-usersd"

end Installation

namespace Cluster

def serviceName (c : Cluster) : String := "cluster-" ++ c.installation ++ "-" ++ c.name

def shardServiceName (c : Cluster) (shard : Shard) : String :=
  "shard-" ++ c.installation ++ "-" ++ c.name ++ "-" ++ shard.name

def budgetName (c : Cluster) : String := c.installation ++ "-" ++ c.name

end Cluster

end ShardOperator
