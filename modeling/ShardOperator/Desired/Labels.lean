import ShardOperator.Platform.Metadata
import ShardOperator.Topology.Installation

namespace ShardOperator

namespace Labels

def app : String := "clickhouse.altinity.com/app"
def installation : String := "clickhouse.altinity.com/chi"
def ns : String := "clickhouse.altinity.com/namespace"
def cluster : String := "clickhouse.altinity.com/cluster"
def shard : String := "clickhouse.altinity.com/shard"
def replica : String := "clickhouse.altinity.com/replica"
def configMapRole : String := "clickhouse.altinity.com/ConfigMap"
def serviceRole : String := "clickhouse.altinity.com/Service"

/-- The value under `app` of everything that the operator manages. -/
def appValue : String := "chop"

def ofInstallation (name : String) : Labels :=
  SortedMap.ofList [(app, appValue), (installation, name)]

def ofCluster (installationName clusterName : String) : Labels :=
  (ofInstallation installationName).insert cluster clusterName

/-- Both sides' labels; under a key that both have, what is there already stays. -/
def keepExisting (required : Labels) (existing : Option Labels) : Labels :=
  required.override (existing.getD .empty)

end Labels

namespace HostAddress

/-- Selects the pod of one host. -/
def selector (a : HostAddress) : Labels :=
  ((Labels.ofCluster a.installation a.cluster).insert Labels.shard a.shard).insert
    Labels.replica a.replica

/-- The labels of a host's workload and of its pod. -/
def labels (a : HostAddress) : Labels := a.selector.insert Labels.ns a.ns

def serviceLabels (a : HostAddress) : Labels := a.labels.insert Labels.serviceRole "host"

def configMapLabels (a : HostAddress) : Labels := a.labels.insert Labels.configMapRole "Host"

/-- The address that a workload's labels tell, which leave the indices open. -/
def ofLabels? (labels : Labels) (ns : String) : Option HostAddress := do
  let shard ← labels.find? Labels.shard
  let replica ← labels.find? Labels.replica
  some {
    ns
    installation := ← labels.find? Labels.installation
    cluster := ← labels.find? Labels.cluster
    shard
    replica
    host := shard ++ "-" ++ replica }

end HostAddress

namespace Installation

/-- Selects every pod of the installation. -/
def selector (i : Installation) : Labels := Labels.ofInstallation i.name

def labels (i : Installation) : Labels := i.selector.insert Labels.ns i.ns

def serviceLabels (i : Installation) : Labels := i.labels.insert Labels.serviceRole "chi"

def commonConfigMapLabels (i : Installation) : Labels :=
  i.labels.insert Labels.configMapRole "ChiCommon"

def usersConfigMapLabels (i : Installation) : Labels :=
  i.labels.insert Labels.configMapRole "ChiCommonUsers"

end Installation

namespace Cluster

/-- Selects every pod of the cluster. -/
def selector (c : Cluster) : Labels := Labels.ofCluster c.installation c.name

def labels (c : Cluster) : Labels := c.selector.insert Labels.ns c.ns

def serviceLabels (c : Cluster) : Labels := c.labels.insert Labels.serviceRole "cluster"

/-- Selects every pod of one of the cluster's shards. -/
def shardSelector (c : Cluster) (shard : Shard) : Labels :=
  c.selector.insert Labels.shard shard.name

def shardServiceLabels (c : Cluster) (shard : Shard) : Labels :=
  ((c.shardSelector shard).insert Labels.ns c.ns).insert Labels.serviceRole "shard"

end Cluster

end ShardOperator
