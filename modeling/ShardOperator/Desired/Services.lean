import ShardOperator.Desired.Blueprint
import ShardOperator.Platform.Port

namespace ShardOperator

namespace ServiceTemplate

/-- Every port of the template is one that can exist. -/
def verifyPorts (t : ServiceTemplate) : Outcome Unit :=
  match (t.spec.ports.getD []).find? (!isPort ·.port.toInt) with
  | some port => .error <| .invalid ("service template " ++ t.name)
      ("port " ++ toString port.port.toInt ++ " out of range 1-65535")
  | none => .ok ()

/-- The Service made from the template. Name and namespace are given; labels and selector keys of
the template stay as they are. -/
def instantiate (t : ServiceTemplate) (ns name : String) (labels selector : Labels) :
    Resource .service where
  metadata := { t.metadata with
    name := some name
    ns := some ns
    generateName := none
    labels := some (labels.keepExisting t.metadata.labels) }
  body := { spec := some { t.spec with selector := some (selector.keepExisting t.spec.selector) } }

end ServiceTemplate

namespace Blueprint

def tcpPort (name : String) (port : Int32) (target : IntOrText) : ServicePort :=
  { name := some name, port, protocol := some "TCP", targetPort := some target }

def serviceTemplate? (b : Blueprint) (name : Option String) : Option ServiceTemplate :=
  name.bind b.installation.templates.service?

def fromTemplate (b : Blueprint) (t : ServiceTemplate) (ns name : String)
    (labels selector : Labels) : Outcome (Resource .service) := do
  t.verifyPorts
  return b.finish (t.instantiate ns name labels selector)

/-- The Service in front of the installation; without a template it balances load over every
host. -/
def installationService (b : Blueprint) : Outcome (Resource .service) :=
  let i := b.installation
  match b.serviceTemplate? i.defaults.serviceTemplate with
  | some t => b.fromTemplate t i.ns i.serviceName i.serviceLabels i.selector
  | none =>
    let spec : ServiceSpec := {
      serviceType := some "LoadBalancer"
      selector := some i.selector
      ports := some [tcpPort PortName.http b.defaults.httpPort (.text PortName.http),
        tcpPort PortName.tcp b.defaults.tcpPort (.text PortName.tcp)] }
    .ok <| b.finish {
      metadata := .generated i.serviceName i.ns i.serviceLabels
      body := { spec := some spec } }

/-- There is a cluster Service only where the cluster names a template. -/
def clusterService? (b : Blueprint) (c : Cluster) : Outcome (Option (Resource .service)) :=
  match b.serviceTemplate? c.templates.clusterServiceTemplate with
  | some t => some <$> b.fromTemplate t c.ns c.serviceName c.serviceLabels c.selector
  | none => .ok none

/-- There is a shard Service only where the shard names a template. -/
def shardService? (b : Blueprint) (c : Cluster) (shard : Shard) :
    Outcome (Option (Resource .service)) :=
  match b.serviceTemplate? shard.templates.shardServiceTemplate with
  | some t => some <$> b.fromTemplate t c.ns (c.shardServiceName shard) (c.shardServiceLabels shard)
      (c.shardSelector shard)
  | none => .ok none

/-- The Service that gives a host its name; without a template it has no address of its own. -/
def hostService (b : Blueprint) (host : Host) : Outcome (Resource .service) :=
  let a := host.address
  match b.serviceTemplate? host.templates.replicaServiceTemplate with
  | some t => b.fromTemplate t host.ns a.workloadName a.serviceLabels a.selector
  | none =>
    let port (name : String) (n : Int32) := tcpPort name n (.int n)
    let spec : ServiceSpec := {
      serviceType := some "ClusterIP"
      clusterIP := some "None"
      publishNotReadyAddresses := some true
      selector := some a.selector
      ports := some [port PortName.http host.httpPort, port PortName.tcp host.tcpPort,
        port PortName.interserver host.interserverPort] }
    .ok <| b.finish {
      metadata := .generated a.workloadName host.ns a.serviceLabels
      body := { spec := some spec } }

end Blueprint

end ShardOperator
