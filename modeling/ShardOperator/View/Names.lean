import ShardOperator.Desired.Labels
import ShardOperator.Desired.Names
import ShardOperator.Reconcile.Program
import ShardOperator.View.Topology

namespace ShardOperator

namespace HostAddress

def ofInstallation (a : HostAddress) : Installation := { ns := a.ns, name := a.installation }

def ofCluster (a : HostAddress) : Cluster :=
  { name := a.cluster, index := a.clusterIndex, ns := a.ns, installation := a.installation }

def ofShard (a : HostAddress) : Shard := { name := a.shard, index := a.shardIndex }

/-- The names of everything that an address has a part in. -/
def names (a : HostAddress) : List (String × String) :=
  let (i, c) := (a.ofInstallation, a.ofCluster)
  [("installation_service", i.serviceName), ("cluster_service", c.serviceName),
    ("shard_service", c.shardServiceName a.ofShard), ("statefulset", a.workloadName),
    ("host_service", a.workloadName), ("pod_hostname", a.workloadName), ("host_fqdn", a.fqdn),
    ("installation_fqdn", i.fqdn), ("common_configmap", i.commonConfigMapName),
    ("users_configmap", i.usersConfigMapName), ("host_configmap", a.configMapName),
    ("pod_disruption_budget", c.budgetName)]

/-- The labels and selectors of everything that an address has a part in. -/
def labelSets (a : HostAddress) : List (String × Labels) :=
  let (i, c) := (a.ofInstallation, a.ofCluster)
  [("installation_selector", i.selector), ("cluster_selector", c.selector),
    ("shard_selector", c.shardSelector a.ofShard), ("host_selector", a.selector),
    ("installation_labels", i.labels), ("cluster_labels", c.labels), ("host_labels", a.labels),
    ("installation_service_labels", i.serviceLabels), ("cluster_service_labels", c.serviceLabels),
    ("shard_service_labels", c.shardServiceLabels a.ofShard),
    ("host_service_labels", a.serviceLabels),
    ("common_configmap_labels", i.commonConfigMapLabels),
    ("users_configmap_labels", i.usersConfigMapLabels),
    ("host_configmap_labels", a.configMapLabels)]

def overview (a : HostAddress) : Json := .obj [
  ("names", .obj (a.names.map fun e => (e.1, .str e.2))),
  ("labels", .obj (a.labelSets.map fun e => (e.1, .ofMap .str e.2))),
  ("selector", .str (Labels.ofInstallation a.installation).query),
  ("round", .ofOption toJson (ofLabels? a.labels a.ns)),
  ("note", .str (objectNote Kind.statefulSet.text a.ns a.workloadName))]

end HostAddress

end ShardOperator
