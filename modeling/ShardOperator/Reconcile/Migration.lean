import ShardOperator.Error
import ShardOperator.Platform.Resource

namespace ShardOperator

/-- Both sides' entries, the desired ones winning; nothing only where neither side has a map. -/
def mergeEntries (current desired : Option (SortedMap String)) : Option (SortedMap String) :=
  match current with
  | none => desired
  | some current => some (current.override (desired.getD .empty))

/-- The desired finalizers, and after them the current ones that are missing, each once. -/
def mergeFinalizers (current desired : Option (List String)) : Option (List String) :=
  match current with
  | none => desired
  | some current =>
    let add (kept : List String) (name : String) := if name ∈ kept then kept else kept ++ [name]
    some (current.foldl add (desired.getD []))

/-- The desired metadata with the current version, and with the labels, annotations and finalizers
that others have added. -/
def ObjectMeta.migrate (current desired : ObjectMeta) : ObjectMeta :=
  { desired with
    resourceVersion := current.resourceVersion
    labels := mergeEntries current.labels desired.labels
    annotations := mergeEntries current.annotations desired.annotations
    finalizers := mergeFinalizers current.finalizers desired.finalizers }

namespace ServiceSpec

def assignsNodePorts (serviceType : String) : Bool :=
  serviceType = "NodePort" || serviceType = "LoadBalancer"

/-- A port without a node port takes the one of the first current port with its number. -/
def keepNodePort (current : List ServicePort) (port : ServicePort) : ServicePort :=
  let taken := (current.find? (·.port = port.port)).bind (·.nodePort)
  { port with nodePort := port.nodePort.or taken }

def isLocal (spec : ServiceSpec) : Bool := spec.externalTrafficPolicy = some "Local"

def hasAddress (spec : ServiceSpec) : Bool := spec.clusterIP.any (· ≠ "")

/-- What the platform has assigned stays: the address, node ports, the port for health checks, and
the class of the load balancer. -/
def migrate (serviceType : String) (current desired : ServiceSpec) : ServiceSpec :=
  let address := if current.hasAddress then current else desired
  let ports := if assignsNodePorts serviceType
    then desired.ports.map (·.map (keepNodePort (current.ports.getD []))) else desired.ports
  let healthCheck := if current.isLocal && desired.isLocal
    then desired.healthCheckNodePort.or current.healthCheckNodePort else desired.healthCheckNodePort
  { desired with
    clusterIP := address.clusterIP
    clusterIPs := address.clusterIPs
    ports
    healthCheckNodePort := healthCheck
    loadBalancerClass := desired.loadBalancerClass.or current.loadBalancerClass }

end ServiceSpec

/-- The type of a Service; one without a type has an address inside the cluster. -/
def ServiceBody.serviceType (body : ServiceBody) : String :=
  (body.spec.bind (·.serviceType)).getD "ClusterIP"

namespace Resource

def migrateMeta {kind : Kind} (current desired : Resource kind) : Resource kind :=
  { desired with metadata := current.metadata.migrate desired.metadata }

/-- A Service keeps its type for life. -/
def migrateService (current desired : Resource .service) : Outcome (Resource .service) :=
  let currentType := ServiceBody.serviceType current.body
  let desiredType := ServiceBody.serviceType desired.body
  if currentType ≠ desiredType then
    .error <| .immutableField Kind.service.text current.ns current.name
      ("type " ++ currentType ++ " -> " ++ desiredType)
  else
    let spec := match ServiceBody.spec current.body, ServiceBody.spec desired.body with
      | some current, some desired => some (current.migrate currentType desired)
      | _, desired => desired
    let body : ServiceBody := { status := ServiceBody.status desired.body, spec }
    .ok { current.migrateMeta desired with body }

/-- The desired object made fit to replace the current one. -/
def migrate : {kind : Kind} → (current desired : Resource kind) → Outcome (Resource kind)
  | .service, current, desired => current.migrateService desired
  | .configMap, current, desired | .statefulSet, current, desired
  | .disruptionBudget, current, desired => .ok (current.migrateMeta desired)

end Resource

end ShardOperator
