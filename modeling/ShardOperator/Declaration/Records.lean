import ShardOperator.Declaration.Installation
import ShardOperator.Declaration.Schema

namespace ShardOperator

namespace Schema

def templateNames : Schema := .record "Names of templates referenced from a level of the tree" [
  ("hostTemplate", "Host template", .nullable, .text),
  ("podTemplate", "Pod template for the host's StatefulSet", .nullable, .text),
  ("dataVolumeClaimTemplate", "Volume claim template mounted at the data path", .nullable, .text),
  ("logVolumeClaimTemplate", "Volume claim template mounted at the log path", .nullable, .text),
  ("serviceTemplate", "Service template for the installation-wide Service", .nullable, .text),
  ("clusterServiceTemplate", "Service template for a cluster Service", .nullable, .text),
  ("shardServiceTemplate", "Service template for a shard Service", .nullable, .text),
  ("replicaServiceTemplate", "Service template for a host Service", .nullable, .text)]

def defaults : Schema := .record "Installation-wide defaults inherited by every cluster" [
  ("templates", "Template names applied to every cluster unless overridden", .nullable,
    templateNames)]

def host : Schema := .record "Explicit host definition" [
  ("name", "Host name", .nullable, .text),
  ("tcpPort", "Native protocol port", .nullable, .integer "int32"),
  ("httpPort", "HTTP interface port", .nullable, .integer "int32"),
  ("interserverHTTPPort", "Replication port", .nullable, .integer "int32"),
  ("settings", "Host-scoped settings", .free, .settings),
  ("files", "Host-scoped files", .free, .settings),
  ("templates", "Template names", .nullable, templateNames)]

def replica : Schema := .record "Explicit replica definition" [
  ("name", "Replica name", .nullable, .text),
  ("settings", "Host-scoped settings", .free, .settings),
  ("files", "Host-scoped files", .free, .settings),
  ("templates", "Template names", .nullable, templateNames),
  ("shardsCount", "Number of shards in this replica", .nullable, .natural),
  ("shards", "Explicit hosts of this replica", .free, .list host)]

def shard : Schema := .record "Explicit shard definition" [
  ("name", "Shard name", .nullable, .text),
  ("weight", "Weight in `remote_servers`", .nullable, .natural),
  ("internalReplication", "`internal_replication` flag in `remote_servers`", .nullable, .boolean),
  ("settings", "Host-scoped settings", .free, .settings),
  ("files", "Host-scoped files", .free, .settings),
  ("templates", "Template names", .nullable, templateNames),
  ("replicasCount", "Number of replicas in this shard", .nullable, .natural),
  ("replicas", "Explicit hosts of this shard", .free, .list host)]

def layout : Schema := .record "Cluster layout: counts or explicit shard/replica lists" [
  ("shardsCount", "Number of shards", .nullable, .natural),
  ("replicasCount", "Number of replicas per shard", .nullable, .natural),
  ("shards", "Explicit shards; takes precedence over `replicas`", .free, .list shard),
  ("replicas", "Explicit replicas, used when no shards are listed", .free, .list replica)]

def cluster : Schema := .record "`.spec.configuration.clusters[]`" [
  ("name", "Cluster name, used in object names and in `remote_servers`", .required, .text),
  ("settings", "Host-scoped settings inherited by every host of the cluster", .free, .settings),
  ("files", "Files inherited by every host of the cluster", .free, .settings),
  ("templates", "Template names for this cluster", .nullable, templateNames),
  ("layout", "Shard × replica layout", .defaulted (LayoutSpec.toJson {}), layout)]

def zookeeperNode : Schema := .record "A single ensemble member" [
  ("host", "Hostname", .required, .text),
  ("port", "Client port (2181 when omitted)", .nullable, .integer "int32")]

def zookeeper : Schema := .record "ZooKeeper / Keeper connection settings" [
  ("nodes", "Ensemble members", .defaulted (.arr []), .list zookeeperNode),
  ("sessionTimeoutMs", "Session timeout in milliseconds", .nullable, .natural),
  ("operationTimeoutMs", "Operation timeout in milliseconds", .nullable, .natural),
  ("root", "Root znode", .nullable, .text),
  ("identity", "`user:password` digest identity", .nullable, .text)]

def configuration : Schema := .record "`.spec.configuration`" [
  ("settings", "Server settings shared by every host", .free, .settings),
  ("files", "Extra configuration files keyed by `section/filename`", .free, .settings),
  ("users", "User definitions (`user/field` paths)", .free, .settings),
  ("profiles", "Settings profiles (`profile/setting` paths)", .free, .settings),
  ("quotas", "Quotas (`quota/interval/field` paths)", .free, .settings),
  ("zookeeper", "Coordination service used for replication", .nullable, zookeeper),
  ("clusters", "Clusters of this installation", .free, .list cluster)]

def podTemplate : Schema := .record "Named pod template" [
  ("name", "Template name", .required, .text),
  ("metadata", "Pod metadata merged into the StatefulSet's pod template", .nullable, .platform),
  ("spec", "Pod spec", .defaulted (PodSpec.toJson {}), .platform)]

def volumeClaimTemplate : Schema := .record "Named volume claim template" [
  ("name", "Template name, also the claim and volume mount name", .required, .text),
  ("metadata", "Claim metadata", .nullable, .platform),
  ("spec", "Claim spec", .defaulted (VolumeClaimSpec.toJson {}), .platform)]

def serviceTemplate : Schema := .record "Named service template" [
  ("name", "Template name", .required, .text),
  ("metadata", "Service metadata; name and namespace are always overwritten",
    .defaulted (ObjectMeta.toJson {}), .platform),
  ("spec", "Service spec", .defaulted (ServiceSpec.toJson {}), .platform)]

def templates : Schema := .record "`.spec.templates`: template definitions referenced by name" [
  ("podTemplates", "Pod templates", .free, .list podTemplate),
  ("volumeClaimTemplates", "Volume claim templates", .free, .list volumeClaimTemplate),
  ("serviceTemplates", "Service templates", .free, .list serviceTemplate)]

def installation : Schema := .record "Specification for a ClickHouseInstallation" [
  ("stop", "Scale every StatefulSet to zero while keeping all other objects", .free, .boolean),
  ("defaults", "Defaults inherited by every cluster", .nullable, defaults),
  ("configuration", "Settings, users and cluster layout",
    .defaulted (Configuration.toJson {}), configuration),
  ("templates", "Named templates referenced from `defaults` and the cluster tree", .nullable,
    templates)]

def count : Presence × Schema := (.defaulted (.int 0), .natural)

def status : Schema := .record "Status for a ClickHouseInstallation" [
  ("status", "Outcome of the latest reconcile pass", .defaulted Phase.pending.toJson,
    .choice (Phase.all.map Phase.text)),
  ("observedGeneration", "Generation the latest pass was computed from", .nullable,
    .integer "int64"),
  ("clusters", "Number of clusters", count),
  ("shards", "Number of shards across all clusters", count),
  ("hosts", "Number of hosts across all clusters", count),
  ("hostsCompleted", "Hosts whose objects converged in the latest pass", count),
  ("hostsAdded", "Hosts created in the latest pass", count),
  ("hostsRemoved", "Hosts torn down in the latest pass", count),
  ("hostsWithErrors", "Hosts with at least one failed object in the latest pass", count),
  ("errors", "Most recent errors, newest last", .free, .list .text),
  ("action", "Last action taken", .nullable, .text),
  ("endpoint", "Installation-wide Service DNS name", .nullable, .text),
  ("fqdns", "Fully qualified names of every host", .free, .list .text)]

/-- The record that users and the operator share: the one writes the specification, the other the
status. -/
def resource : Schema :=
  .record "Auto-generated derived type for ClickHouseInstallationSpec via `CustomResource`" [
    ("spec", "Specification for a ClickHouseInstallation", .required, installation),
    ("status", "Status for a ClickHouseInstallation", .nullable, status)]

end Schema

end ShardOperator
