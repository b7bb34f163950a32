import ShardOperator.Platform.Metadata

namespace ShardOperator

structure ServicePort where
  appProtocol : Option String := none
  name : Option String := none
  nodePort : Option Int32 := none
  port : Int32 := 0
  protocol : Option String := none
  targetPort : Option IntOrText := none
  deriving DecidableEq, Inhabited

def ServicePort.ofJson? (value : Json) : Option ServicePort := do
  let f ← value.object?
  some {
    appProtocol := ← f.optional "appProtocol" Json.text?
    name := ← f.optional "name" Json.text?
    nodePort := ← f.optional "nodePort" Json.int32?
    port := ← f.lenient "port" 0 Json.int32?
    protocol := ← f.optional "protocol" Json.text?
    targetPort := ← f.optional "targetPort" IntOrText.ofJson? }

def ServicePort.toJson (x : ServicePort) : Json :=
  .object [
    ("appProtocol", x.appProtocol.map .str),
    ("name", x.name.map .str),
    ("nodePort", x.nodePort.map .ofInt32),
    ("port", some (.ofInt32 x.port)),
    ("protocol", x.protocol.map .str),
    ("targetPort", x.targetPort.map IntOrText.toJson)]

structure ServiceSpec where
  allocateLoadBalancerNodePorts : Option Bool := none
  clusterIP : Option String := none
  clusterIPs : Option (List String) := none
  externalIPs : Option (List String) := none
  externalName : Option String := none
  externalTrafficPolicy : Option String := none
  healthCheckNodePort : Option Int32 := none
  internalTrafficPolicy : Option String := none
  ipFamilies : Option (List String) := none
  ipFamilyPolicy : Option String := none
  loadBalancerClass : Option String := none
  loadBalancerIP : Option String := none
  loadBalancerSourceRanges : Option (List String) := none
  ports : Option (List ServicePort) := none
  publishNotReadyAddresses : Option Bool := none
  selector : Option (SortedMap String) := none
  sessionAffinity : Option String := none
  sessionAffinityConfig : Option Json := none
  trafficDistribution : Option String := none
  serviceType : Option String := none
  deriving DecidableEq, Inhabited

def ServiceSpec.ofJson? (value : Json) : Option ServiceSpec := do
  let f ← value.object?
  some {
    allocateLoadBalancerNodePorts := ← f.optional "allocateLoadBalancerNodePorts" Json.bool?
    clusterIP := ← f.optional "clusterIP" Json.text?
    clusterIPs := ← f.optional "clusterIPs" (Json.list? Json.text?)
    externalIPs := ← f.optional "externalIPs" (Json.list? Json.text?)
    externalName := ← f.optional "externalName" Json.text?
    externalTrafficPolicy := ← f.optional "externalTrafficPolicy" Json.text?
    healthCheckNodePort := ← f.optional "healthCheckNodePort" Json.int32?
    internalTrafficPolicy := ← f.optional "internalTrafficPolicy" Json.text?
    ipFamilies := ← f.optional "ipFamilies" (Json.list? Json.text?)
    ipFamilyPolicy := ← f.optional "ipFamilyPolicy" Json.text?
    loadBalancerClass := ← f.optional "loadBalancerClass" Json.text?
    loadBalancerIP := ← f.optional "loadBalancerIP" Json.text?
    loadBalancerSourceRanges := ← f.optional "loadBalancerSourceRanges" (Json.list? Json.text?)
    ports := ← f.optional "ports" (Json.list? ServicePort.ofJson?)
    publishNotReadyAddresses := ← f.optional "publishNotReadyAddresses" Json.bool?
    selector := ← f.optional "selector" (Json.map? Json.text?)
    sessionAffinity := ← f.optional "sessionAffinity" Json.text?
    sessionAffinityConfig := ← f.optional "sessionAffinityConfig" some
    trafficDistribution := ← f.optional "trafficDistribution" Json.text?
    serviceType := ← f.optional "type" Json.text? }

def ServiceSpec.toJson (x : ServiceSpec) : Json :=
  .object [
    ("allocateLoadBalancerNodePorts", x.allocateLoadBalancerNodePorts.map .bool),
    ("clusterIP", x.clusterIP.map .str),
    ("clusterIPs", x.clusterIPs.map .ofTexts),
    ("externalIPs", x.externalIPs.map .ofTexts),
    ("externalName", x.externalName.map .str),
    ("externalTrafficPolicy", x.externalTrafficPolicy.map .str),
    ("healthCheckNodePort", x.healthCheckNodePort.map .ofInt32),
    ("internalTrafficPolicy", x.internalTrafficPolicy.map .str),
    ("ipFamilies", x.ipFamilies.map .ofTexts),
    ("ipFamilyPolicy", x.ipFamilyPolicy.map .str),
    ("loadBalancerClass", x.loadBalancerClass.map .str),
    ("loadBalancerIP", x.loadBalancerIP.map .str),
    ("loadBalancerSourceRanges", x.loadBalancerSourceRanges.map .ofTexts),
    ("ports", x.ports.map (.arr <| ·.map ServicePort.toJson)),
    ("publishNotReadyAddresses", x.publishNotReadyAddresses.map .bool),
    ("selector", x.selector.map (.ofMap .str)),
    ("sessionAffinity", x.sessionAffinity.map .str),
    ("sessionAffinityConfig", x.sessionAffinityConfig),
    ("trafficDistribution", x.trafficDistribution.map .str),
    ("type", x.serviceType.map .str)]

end ShardOperator
