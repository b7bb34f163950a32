import ShardOperator.Declaration.Layout
import ShardOperator.Declaration.Status

namespace ShardOperator

structure ZookeeperNode where
  host : String
  port : Option Int32 := none
  deriving DecidableEq, Inhabited

def ZookeeperNode.declared : List String :=
  ["host", "port"]

def ZookeeperNode.ofJson? (value : Json) : Option ZookeeperNode := do
  let f ← value.record? ZookeeperNode.declared
  some {
    host := ← f.required "host" Json.text?
    port := ← f.optional "port" Json.int32? }

def ZookeeperNode.toJson (x : ZookeeperNode) : Json :=
  .object [
    ("host", some (.str x.host)),
    ("port", x.port.map .ofInt32)]

/-- The coordination service that replication uses. -/
structure ZookeeperConfig where
  nodes : List ZookeeperNode := []
  sessionTimeoutMs : Option UInt32 := none
  operationTimeoutMs : Option UInt32 := none
  root : Option String := none
  identity : Option String := none
  deriving DecidableEq, Inhabited

def ZookeeperConfig.declared : List String :=
  ["nodes", "sessionTimeoutMs", "operationTimeoutMs", "root", "identity"]

def ZookeeperConfig.ofJson? (value : Json) : Option ZookeeperConfig := do
  let f ← value.record? ZookeeperConfig.declared
  some {
    nodes := ← f.defaulted "nodes" [] (Json.list? ZookeeperNode.ofJson?)
    sessionTimeoutMs := ← f.optional "sessionTimeoutMs" Json.uint32?
    operationTimeoutMs := ← f.optional "operationTimeoutMs" Json.uint32?
    root := ← f.optional "root" Json.text?
    identity := ← f.optional "identity" Json.text? }

def ZookeeperConfig.toJson (x : ZookeeperConfig) : Json :=
  .object [
    ("nodes", some ((.arr <| ·.map ZookeeperNode.toJson) x.nodes)),
    ("sessionTimeoutMs", x.sessionTimeoutMs.map (.ofNat ·.toNat)),
    ("operationTimeoutMs", x.operationTimeoutMs.map (.ofNat ·.toNat)),
    ("root", x.root.map .str),
    ("identity", x.identity.map .str)]

structure Configuration where
  settings : Settings := .empty
  files : Settings := .empty
  users : Settings := .empty
  profiles : Settings := .empty
  quotas : Settings := .empty
  zookeeper : Option ZookeeperConfig := none
  clusters : List ClusterSpec := []
  deriving DecidableEq, Inhabited

def Configuration.declared : List String :=
  ["settings", "files", "users", "profiles", "quotas", "zookeeper", "clusters"]

def Configuration.ofJson? (value : Json) : Option Configuration := do
  let f ← value.record? Configuration.declared
  some {
    settings := ← f.defaulted "settings" .empty Settings.ofJson?
    files := ← f.defaulted "files" .empty Settings.ofJson?
    users := ← f.defaulted "users" .empty Settings.ofJson?
    profiles := ← f.defaulted "profiles" .empty Settings.ofJson?
    quotas := ← f.defaulted "quotas" .empty Settings.ofJson?
    zookeeper := ← f.optional "zookeeper" ZookeeperConfig.ofJson?
    clusters := ← f.defaulted "clusters" [] (Json.list? ClusterSpec.ofJson?) }

def Configuration.toJson (x : Configuration) : Json :=
  .object [
    ("settings", unlessEmpty x.settings),
    ("files", unlessEmpty x.files),
    ("users", unlessEmpty x.users),
    ("profiles", unlessEmpty x.profiles),
    ("quotas", unlessEmpty x.quotas),
    ("zookeeper", x.zookeeper.map ZookeeperConfig.toJson),
    ("clusters", unlessNone ClusterSpec.toJson x.clusters)]

/-- What every cluster inherits. -/
structure Defaults where
  templates : Option TemplateNames := none
  deriving DecidableEq, Inhabited

def Defaults.declared : List String :=
  ["templates"]

def Defaults.ofJson? (value : Json) : Option Defaults := do
  let f ← value.record? Defaults.declared
  some {
    templates := ← f.optional "templates" TemplateNames.ofJson? }

def Defaults.toJson (x : Defaults) : Json :=
  .object [
    ("templates", x.templates.map TemplateNames.toJson)]

structure InstallationSpec where
  stop : Bool := false
  defaults : Option Defaults := none
  configuration : Configuration := {}
  templates : Option Templates := none
  deriving DecidableEq, Inhabited

def InstallationSpec.declared : List String :=
  ["stop", "defaults", "configuration", "templates"]

def InstallationSpec.ofJson? (value : Json) : Option InstallationSpec := do
  let f ← value.record? InstallationSpec.declared
  some {
    stop := ← f.defaulted "stop" false Json.bool?
    defaults := ← f.optional "defaults" Defaults.ofJson?
    configuration := ← f.defaulted "configuration" {} Configuration.ofJson?
    templates := ← f.optional "templates" Templates.ofJson? }

def InstallationSpec.toJson (x : InstallationSpec) : Json :=
  .object [
    ("stop", if x.stop then some (.bool true) else none),
    ("defaults", x.defaults.map Defaults.toJson),
    ("configuration", some (Configuration.toJson x.configuration)),
    ("templates", x.templates.map Templates.toJson)]

/-- A declared installation: the custom resource that users write. -/
structure InstallationResource where
  metadata : ObjectMeta
  spec : InstallationSpec
  status : Option InstallationStatus := none
  deriving DecidableEq, Inhabited

def InstallationResource.declared : List String :=
  ["metadata", "spec", "status"]

def InstallationResource.ofJson? (value : Json) : Option InstallationResource := do
  let f ← value.record? InstallationResource.declared
  some {
    metadata := ← f.required "metadata" ObjectMeta.ofJson?
    spec := ← f.required "spec" InstallationSpec.ofJson?
    status := ← f.optional "status" InstallationStatus.ofJson? }

def InstallationResource.toJson (x : InstallationResource) : Json :=
  .object [
    ("metadata", some (ObjectMeta.toJson x.metadata)),
    ("spec", some (InstallationSpec.toJson x.spec)),
    ("status", x.status.map InstallationStatus.toJson)]

namespace InstallationResource

def apiGroup : String := "clickhouse.altinity.com"

def version : String := "v1"

def apiVersion : String := apiGroup ++ "/" ++ version

def kindName : String := "ClickHouseInstallation"

/-- The name, or the stem of a name that the server completes. -/
def anyName (chi : InstallationResource) : String :=
  (chi.metadata.name.or chi.metadata.generateName).getD ""

/-- How events refer to the installation. -/
def reference (chi : InstallationResource) : ObjectReference where
  apiVersion := some apiVersion
  kind := some kindName
  name := chi.metadata.name
  ns := chi.metadata.ns
  resourceVersion := chi.metadata.resourceVersion
  uid := chi.metadata.uid

end InstallationResource

end ShardOperator
