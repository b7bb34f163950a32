import ShardOperator.Platform.Metadata

namespace ShardOperator

structure ResourceRequirements where
  claims : Option Json := none
  limits : Option (SortedMap String) := none
  requests : Option (SortedMap String) := none
  deriving DecidableEq, Inhabited

def ResourceRequirements.ofJson? (value : Json) : Option ResourceRequirements := do
  let f ← value.object?
  some {
    claims := ← f.optional "claims" some
    limits := ← f.optional "limits" (Json.map? Json.text?)
    requests := ← f.optional "requests" (Json.map? Json.text?) }

def ResourceRequirements.toJson (x : ResourceRequirements) : Json :=
  .object [
    ("claims", x.claims),
    ("limits", x.limits.map (.ofMap .str)),
    ("requests", x.requests.map (.ofMap .str))]

structure HttpProbe where
  host : Option String := none
  httpHeaders : Option Json := none
  path : Option String := none
  port : IntOrText := (.int 0)
  scheme : Option String := none
  deriving DecidableEq, Inhabited

def HttpProbe.ofJson? (value : Json) : Option HttpProbe := do
  let f ← value.object?
  some {
    host := ← f.optional "host" Json.text?
    httpHeaders := ← f.optional "httpHeaders" some
    path := ← f.optional "path" Json.text?
    port := ← f.lenient "port" (.int 0) IntOrText.ofJson?
    scheme := ← f.optional "scheme" Json.text? }

def HttpProbe.toJson (x : HttpProbe) : Json :=
  .object [
    ("host", x.host.map .str),
    ("httpHeaders", x.httpHeaders),
    ("path", x.path.map .str),
    ("port", some x.port.toJson),
    ("scheme", x.scheme.map .str)]

structure Probe where
  exec : Option Json := none
  failureThreshold : Option Int32 := none
  grpc : Option Json := none
  httpGet : Option HttpProbe := none
  initialDelaySeconds : Option Int32 := none
  periodSeconds : Option Int32 := none
  successThreshold : Option Int32 := none
  tcpSocket : Option Json := none
  terminationGracePeriodSeconds : Option Int64 := none
  timeoutSeconds : Option Int32 := none
  deriving DecidableEq, Inhabited

def Probe.ofJson? (value : Json) : Option Probe := do
  let f ← value.object?
  some {
    exec := ← f.optional "exec" some
    failureThreshold := ← f.optional "failureThreshold" Json.int32?
    grpc := ← f.optional "grpc" some
    httpGet := ← f.optional "httpGet" HttpProbe.ofJson?
    initialDelaySeconds := ← f.optional "initialDelaySeconds" Json.int32?
    periodSeconds := ← f.optional "periodSeconds" Json.int32?
    successThreshold := ← f.optional "successThreshold" Json.int32?
    tcpSocket := ← f.optional "tcpSocket" some
    terminationGracePeriodSeconds := ← f.optional "terminationGracePeriodSeconds" Json.int64?
    timeoutSeconds := ← f.optional "timeoutSeconds" Json.int32? }

def Probe.toJson (x : Probe) : Json :=
  .object [
    ("exec", x.exec),
    ("failureThreshold", x.failureThreshold.map .ofInt32),
    ("grpc", x.grpc),
    ("httpGet", x.httpGet.map HttpProbe.toJson),
    ("initialDelaySeconds", x.initialDelaySeconds.map .ofInt32),
    ("periodSeconds", x.periodSeconds.map .ofInt32),
    ("successThreshold", x.successThreshold.map .ofInt32),
    ("tcpSocket", x.tcpSocket),
    ("terminationGracePeriodSeconds", x.terminationGracePeriodSeconds.map .ofInt64),
    ("timeoutSeconds", x.timeoutSeconds.map .ofInt32)]

structure ContainerPort where
  containerPort : Int32 := 0
  hostIP : Option String := none
  hostPort : Option Int32 := none
  name : Option String := none
  protocol : Option String := none
  deriving DecidableEq, Inhabited

def ContainerPort.ofJson? (value : Json) : Option ContainerPort := do
  let f ← value.object?
  some {
    containerPort := ← f.lenient "containerPort" 0 Json.int32?
    hostIP := ← f.optional "hostIP" Json.text?
    hostPort := ← f.optional "hostPort" Json.int32?
    name := ← f.optional "name" Json.text?
    protocol := ← f.optional "protocol" Json.text? }

def ContainerPort.toJson (x : ContainerPort) : Json :=
  .object [
    ("containerPort", some (.ofInt32 x.containerPort)),
    ("hostIP", x.hostIP.map .str),
    ("hostPort", x.hostPort.map .ofInt32),
    ("name", x.name.map .str),
    ("protocol", x.protocol.map .str)]

structure EnvVar where
  name : String := ""
  value : Option String := none
  valueFrom : Option Json := none
  deriving DecidableEq, Inhabited

def EnvVar.ofJson? (value : Json) : Option EnvVar := do
  let f ← value.object?
  some {
    name := ← f.lenient "name" "" Json.text?
    value := ← f.optional "value" Json.text?
    valueFrom := ← f.optional "valueFrom" some }

def EnvVar.toJson (x : EnvVar) : Json :=
  .object [
    ("name", some (.str x.name)),
    ("value", x.value.map .str),
    ("valueFrom", x.valueFrom)]

structure VolumeMount where
  mountPath : String := ""
  mountPropagation : Option String := none
  name : String := ""
  readOnly : Option Bool := none
  recursiveReadOnly : Option String := none
  subPath : Option String := none
  subPathExpr : Option String := none
  deriving DecidableEq, Inhabited

def VolumeMount.ofJson? (value : Json) : Option VolumeMount := do
  let f ← value.object?
  some {
    mountPath := ← f.lenient "mountPath" "" Json.text?
    mountPropagation := ← f.optional "mountPropagation" Json.text?
    name := ← f.lenient "name" "" Json.text?
    readOnly := ← f.optional "readOnly" Json.bool?
    recursiveReadOnly := ← f.optional "recursiveReadOnly" Json.text?
    subPath := ← f.optional "subPath" Json.text?
    subPathExpr := ← f.optional "subPathExpr" Json.text? }

def VolumeMount.toJson (x : VolumeMount) : Json :=
  .object [
    ("mountPath", some (.str x.mountPath)),
    ("mountPropagation", x.mountPropagation.map .str),
    ("name", some (.str x.name)),
    ("readOnly", x.readOnly.map .bool),
    ("recursiveReadOnly", x.recursiveReadOnly.map .str),
    ("subPath", x.subPath.map .str),
    ("subPathExpr", x.subPathExpr.map .str)]

structure Container where
  args : Option (List String) := none
  command : Option (List String) := none
  env : Option (List EnvVar) := none
  envFrom : Option Json := none
  image : Option String := none
  imagePullPolicy : Option String := none
  lifecycle : Option Json := none
  livenessProbe : Option Probe := none
  name : String := ""
  ports : Option (List ContainerPort) := none
  readinessProbe : Option Probe := none
  resizePolicy : Option Json := none
  resources : Option ResourceRequirements := none
  restartPolicy : Option String := none
  securityContext : Option Json := none
  startupProbe : Option Probe := none
  stdin : Option Bool := none
  stdinOnce : Option Bool := none
  terminationMessagePath : Option String := none
  terminationMessagePolicy : Option String := none
  tty : Option Bool := none
  volumeDevices : Option Json := none
  volumeMounts : Option (List VolumeMount) := none
  workingDir : Option String := none
  deriving DecidableEq, Inhabited

def Container.ofJson? (value : Json) : Option Container := do
  let f ← value.object?
  some {
    args := ← f.optional "args" (Json.list? Json.text?)
    command := ← f.optional "command" (Json.list? Json.text?)
    env := ← f.optional "env" (Json.list? EnvVar.ofJson?)
    envFrom := ← f.optional "envFrom" some
    image := ← f.optional "image" Json.text?
    imagePullPolicy := ← f.optional "imagePullPolicy" Json.text?
    lifecycle := ← f.optional "lifecycle" some
    livenessProbe := ← f.optional "livenessProbe" Probe.ofJson?
    name := ← f.lenient "name" "" Json.text?
    ports := ← f.optional "ports" (Json.list? ContainerPort.ofJson?)
    readinessProbe := ← f.optional "readinessProbe" Probe.ofJson?
    resizePolicy := ← f.optional "resizePolicy" some
    resources := ← f.optional "resources" ResourceRequirements.ofJson?
    restartPolicy := ← f.optional "restartPolicy" Json.text?
    securityContext := ← f.optional "securityContext" some
    startupProbe := ← f.optional "startupProbe" Probe.ofJson?
    stdin := ← f.optional "stdin" Json.bool?
    stdinOnce := ← f.optional "stdinOnce" Json.bool?
    terminationMessagePath := ← f.optional "terminationMessagePath" Json.text?
    terminationMessagePolicy := ← f.optional "terminationMessagePolicy" Json.text?
    tty := ← f.optional "tty" Json.bool?
    volumeDevices := ← f.optional "volumeDevices" some
    volumeMounts := ← f.optional "volumeMounts" (Json.list? VolumeMount.ofJson?)
    workingDir := ← f.optional "workingDir" Json.text? }

def Container.toJson (x : Container) : Json :=
  .object [
    ("args", x.args.map .ofTexts),
    ("command", x.command.map .ofTexts),
    ("env", x.env.map (.arr <| ·.map EnvVar.toJson)),
    ("envFrom", x.envFrom),
    ("image", x.image.map .str),
    ("imagePullPolicy", x.imagePullPolicy.map .str),
    ("lifecycle", x.lifecycle),
    ("livenessProbe", x.livenessProbe.map Probe.toJson),
    ("name", some (.str x.name)),
    ("ports", x.ports.map (.arr <| ·.map ContainerPort.toJson)),
    ("readinessProbe", x.readinessProbe.map Probe.toJson),
    ("resizePolicy", x.resizePolicy),
    ("resources", x.resources.map ResourceRequirements.toJson),
    ("restartPolicy", x.restartPolicy.map .str),
    ("securityContext", x.securityContext),
    ("startupProbe", x.startupProbe.map Probe.toJson),
    ("stdin", x.stdin.map .bool),
    ("stdinOnce", x.stdinOnce.map .bool),
    ("terminationMessagePath", x.terminationMessagePath.map .str),
    ("terminationMessagePolicy", x.terminationMessagePolicy.map .str),
    ("tty", x.tty.map .bool),
    ("volumeDevices", x.volumeDevices),
    ("volumeMounts", x.volumeMounts.map (.arr <| ·.map VolumeMount.toJson)),
    ("workingDir", x.workingDir.map .str)]

structure EmptyDirVolume where
  medium : Option String := none
  sizeLimit : Option String := none
  deriving DecidableEq, Inhabited

def EmptyDirVolume.ofJson? (value : Json) : Option EmptyDirVolume := do
  let f ← value.object?
  some {
    medium := ← f.optional "medium" Json.text?
    sizeLimit := ← f.optional "sizeLimit" Json.text? }

def EmptyDirVolume.toJson (x : EmptyDirVolume) : Json :=
  .object [
    ("medium", x.medium.map .str),
    ("sizeLimit", x.sizeLimit.map .str)]

structure ConfigMapVolume where
  defaultMode : Option Int32 := none
  items : Option Json := none
  name : String := ""
  optional : Option Bool := none
  deriving DecidableEq, Inhabited

def ConfigMapVolume.ofJson? (value : Json) : Option ConfigMapVolume := do
  let f ← value.object?
  some {
    defaultMode := ← f.optional "defaultMode" Json.int32?
    items := ← f.optional "items" some
    name := ← f.lenient "name" "" Json.text?
    optional := ← f.optional "optional" Json.bool? }

def ConfigMapVolume.toJson (x : ConfigMapVolume) : Json :=
  .object [
    ("defaultMode", x.defaultMode.map .ofInt32),
    ("items", x.items),
    ("name", some (.str x.name)),
    ("optional", x.optional.map .bool)]

structure HostPathVolume where
  path : String := ""
  pathType : Option String := none
  deriving DecidableEq, Inhabited

def HostPathVolume.ofJson? (value : Json) : Option HostPathVolume := do
  let f ← value.object?
  some {
    path := ← f.lenient "path" "" Json.text?
    pathType := ← f.optional "type" Json.text? }

def HostPathVolume.toJson (x : HostPathVolume) : Json :=
  .object [
    ("path", some (.str x.path)),
    ("type", x.pathType.map .str)]

structure Volume where
  awsElasticBlockStore : Option Json := none
  azureDisk : Option Json := none
  azureFile : Option Json := none
  cephfs : Option Json := none
  cinder : Option Json := none
  configMap : Option ConfigMapVolume := none
  csi : Option Json := none
  downwardAPI : Option Json := none
  emptyDir : Option EmptyDirVolume := none
  ephemeral : Option Json := none
  fc : Option Json := none
  flexVolume : Option Json := none
  flocker : Option Json := none
  gcePersistentDisk : Option Json := none
  gitRepo : Option Json := none
  glusterfs : Option Json := none
  hostPath : Option HostPathVolume := none
  image : Option Json := none
  iscsi : Option Json := none
  name : String := ""
  nfs : Option Json := none
  persistentVolumeClaim : Option Json := none
  photonPersistentDisk : Option Json := none
  portworxVolume : Option Json := none
  projected : Option Json := none
  quobyte : Option Json := none
  rbd : Option Json := none
  scaleIO : Option Json := none
  secret : Option Json := none
  storageos : Option Json := none
  vsphereVolume : Option Json := none
  deriving DecidableEq, Inhabited

def Volume.ofJson? (value : Json) : Option Volume := do
  let f ← value.object?
  some {
    awsElasticBlockStore := ← f.optional "awsElasticBlockStore" some
    azureDisk := ← f.optional "azureDisk" some
    azureFile := ← f.optional "azureFile" some
    cephfs := ← f.optional "cephfs" some
    cinder := ← f.optional "cinder" some
    configMap := ← f.optional "configMap" ConfigMapVolume.ofJson?
    csi := ← f.optional "csi" some
    downwardAPI := ← f.optional "downwardAPI" some
    emptyDir := ← f.optional "emptyDir" EmptyDirVolume.ofJson?
    ephemeral := ← f.optional "ephemeral" some
    fc := ← f.optional "fc" some
    flexVolume := ← f.optional "flexVolume" some
    flocker := ← f.optional "flocker" some
    gcePersistentDisk := ← f.optional "gcePersistentDisk" some
    gitRepo := ← f.optional "gitRepo" some
    glusterfs := ← f.optional "glusterfs" some
    hostPath := ← f.optional "hostPath" HostPathVolume.ofJson?
    image := ← f.optional "image" some
    iscsi := ← f.optional "iscsi" some
    name := ← f.lenient "name" "" Json.text?
    nfs := ← f.optional "nfs" some
    persistentVolumeClaim := ← f.optional "persistentVolumeClaim" some
    photonPersistentDisk := ← f.optional "photonPersistentDisk" some
    portworxVolume := ← f.optional "portworxVolume" some
    projected := ← f.optional "projected" some
    quobyte := ← f.optional "quobyte" some
    rbd := ← f.optional "rbd" some
    scaleIO := ← f.optional "scaleIO" some
    secret := ← f.optional "secret" some
    storageos := ← f.optional "storageos" some
    vsphereVolume := ← f.optional "vsphereVolume" some }

def Volume.toJson (x : Volume) : Json :=
  .object [
    ("awsElasticBlockStore", x.awsElasticBlockStore),
    ("azureDisk", x.azureDisk),
    ("azureFile", x.azureFile),
    ("cephfs", x.cephfs),
    ("cinder", x.cinder),
    ("configMap", x.configMap.map ConfigMapVolume.toJson),
    ("csi", x.csi),
    ("downwardAPI", x.downwardAPI),
    ("emptyDir", x.emptyDir.map EmptyDirVolume.toJson),
    ("ephemeral", x.ephemeral),
    ("fc", x.fc),
    ("flexVolume", x.flexVolume),
    ("flocker", x.flocker),
    ("gcePersistentDisk", x.gcePersistentDisk),
    ("gitRepo", x.gitRepo),
    ("glusterfs", x.glusterfs),
    ("hostPath", x.hostPath.map HostPathVolume.toJson),
    ("image", x.image),
    ("iscsi", x.iscsi),
    ("name", some (.str x.name)),
    ("nfs", x.nfs),
    ("persistentVolumeClaim", x.persistentVolumeClaim),
    ("photonPersistentDisk", x.photonPersistentDisk),
    ("portworxVolume", x.portworxVolume),
    ("projected", x.projected),
    ("quobyte", x.quobyte),
    ("rbd", x.rbd),
    ("scaleIO", x.scaleIO),
    ("secret", x.secret),
    ("storageos", x.storageos),
    ("vsphereVolume", x.vsphereVolume)]

structure HostAlias where
  hostnames : Option (List String) := none
  ip : String := ""
  deriving DecidableEq, Inhabited

def HostAlias.ofJson? (value : Json) : Option HostAlias := do
  let f ← value.object?
  some {
    hostnames := ← f.optional "hostnames" (Json.list? Json.text?)
    ip := ← f.lenient "ip" "" Json.text? }

def HostAlias.toJson (x : HostAlias) : Json :=
  .object [
    ("hostnames", x.hostnames.map .ofTexts),
    ("ip", some (.str x.ip))]

structure PodSpec where
  activeDeadlineSeconds : Option Int64 := none
  affinity : Option Json := none
  automountServiceAccountToken : Option Bool := none
  containers : List Container := []
  dnsConfig : Option Json := none
  dnsPolicy : Option String := none
  enableServiceLinks : Option Bool := none
  ephemeralContainers : Option Json := none
  hostAliases : Option (List HostAlias) := none
  hostIPC : Option Bool := none
  hostNetwork : Option Bool := none
  hostPID : Option Bool := none
  hostUsers : Option Bool := none
  hostname : Option String := none
  imagePullSecrets : Option Json := none
  initContainers : Option (List Container) := none
  nodeName : Option String := none
  nodeSelector : Option (SortedMap String) := none
  os : Option Json := none
  overhead : Option (SortedMap String) := none
  preemptionPolicy : Option String := none
  priority : Option Int32 := none
  priorityClassName : Option String := none
  readinessGates : Option Json := none
  resourceClaims : Option Json := none
  resources : Option ResourceRequirements := none
  restartPolicy : Option String := none
  runtimeClassName : Option String := none
  schedulerName : Option String := none
  schedulingGates : Option Json := none
  securityContext : Option Json := none
  serviceAccount : Option String := none
  serviceAccountName : Option String := none
  setHostnameAsFQDN : Option Bool := none
  shareProcessNamespace : Option Bool := none
  subdomain : Option String := none
  terminationGracePeriodSeconds : Option Int64 := none
  tolerations : Option Json := none
  topologySpreadConstraints : Option Json := none
  volumes : Option (List Volume) := none
  deriving DecidableEq, Inhabited

def PodSpec.ofJson? (value : Json) : Option PodSpec := do
  let f ← value.object?
  some {
    activeDeadlineSeconds := ← f.optional "activeDeadlineSeconds" Json.int64?
    affinity := ← f.optional "affinity" some
    automountServiceAccountToken := ← f.optional "automountServiceAccountToken" Json.bool?
    containers := ← f.lenient "containers" [] (Json.list? Container.ofJson?)
    dnsConfig := ← f.optional "dnsConfig" some
    dnsPolicy := ← f.optional "dnsPolicy" Json.text?
    enableServiceLinks := ← f.optional "enableServiceLinks" Json.bool?
    ephemeralContainers := ← f.optional "ephemeralContainers" some
    hostAliases := ← f.optional "hostAliases" (Json.list? HostAlias.ofJson?)
    hostIPC := ← f.optional "hostIPC" Json.bool?
    hostNetwork := ← f.optional "hostNetwork" Json.bool?
    hostPID := ← f.optional "hostPID" Json.bool?
    hostUsers := ← f.optional "hostUsers" Json.bool?
    hostname := ← f.optional "hostname" Json.text?
    imagePullSecrets := ← f.optional "imagePullSecrets" some
    initContainers := ← f.optional "initContainers" (Json.list? Container.ofJson?)
    nodeName := ← f.optional "nodeName" Json.text?
    nodeSelector := ← f.optional "nodeSelector" (Json.map? Json.text?)
    os := ← f.optional "os" some
    overhead := ← f.optional "overhead" (Json.map? Json.text?)
    preemptionPolicy := ← f.optional "preemptionPolicy" Json.text?
    priority := ← f.optional "priority" Json.int32?
    priorityClassName := ← f.optional "priorityClassName" Json.text?
    readinessGates := ← f.optional "readinessGates" some
    resourceClaims := ← f.optional "resourceClaims" some
    resources := ← f.optional "resources" ResourceRequirements.ofJson?
    restartPolicy := ← f.optional "restartPolicy" Json.text?
    runtimeClassName := ← f.optional "runtimeClassName" Json.text?
    schedulerName := ← f.optional "schedulerName" Json.text?
    schedulingGates := ← f.optional "schedulingGates" some
    securityContext := ← f.optional "securityContext" some
    serviceAccount := ← f.optional "serviceAccount" Json.text?
    serviceAccountName := ← f.optional "serviceAccountName" Json.text?
    setHostnameAsFQDN := ← f.optional "setHostnameAsFQDN" Json.bool?
    shareProcessNamespace := ← f.optional "shareProcessNamespace" Json.bool?
    subdomain := ← f.optional "subdomain" Json.text?
    terminationGracePeriodSeconds := ← f.optional "terminationGracePeriodSeconds" Json.int64?
    tolerations := ← f.optional "tolerations" some
    topologySpreadConstraints := ← f.optional "topologySpreadConstraints" some
    volumes := ← f.optional "volumes" (Json.list? Volume.ofJson?) }

def PodSpec.toJson (x : PodSpec) : Json :=
  .object [
    ("activeDeadlineSeconds", x.activeDeadlineSeconds.map .ofInt64),
    ("affinity", x.affinity),
    ("automountServiceAccountToken", x.automountServiceAccountToken.map .bool),
    ("containers", some (.arr (x.containers.map Container.toJson))),
    ("dnsConfig", x.dnsConfig),
    ("dnsPolicy", x.dnsPolicy.map .str),
    ("enableServiceLinks", x.enableServiceLinks.map .bool),
    ("ephemeralContainers", x.ephemeralContainers),
    ("hostAliases", x.hostAliases.map (.arr <| ·.map HostAlias.toJson)),
    ("hostIPC", x.hostIPC.map .bool),
    ("hostNetwork", x.hostNetwork.map .bool),
    ("hostPID", x.hostPID.map .bool),
    ("hostUsers", x.hostUsers.map .bool),
    ("hostname", x.hostname.map .str),
    ("imagePullSecrets", x.imagePullSecrets),
    ("initContainers", x.initContainers.map (.arr <| ·.map Container.toJson)),
    ("nodeName", x.nodeName.map .str),
    ("nodeSelector", x.nodeSelector.map (.ofMap .str)),
    ("os", x.os),
    ("overhead", x.overhead.map (.ofMap .str)),
    ("preemptionPolicy", x.preemptionPolicy.map .str),
    ("priority", x.priority.map .ofInt32),
    ("priorityClassName", x.priorityClassName.map .str),
    ("readinessGates", x.readinessGates),
    ("resourceClaims", x.resourceClaims),
    ("resources", x.resources.map ResourceRequirements.toJson),
    ("restartPolicy", x.restartPolicy.map .str),
    ("runtimeClassName", x.runtimeClassName.map .str),
    ("schedulerName", x.schedulerName.map .str),
    ("schedulingGates", x.schedulingGates),
    ("securityContext", x.securityContext),
    ("serviceAccount", x.serviceAccount.map .str),
    ("serviceAccountName", x.serviceAccountName.map .str),
    ("setHostnameAsFQDN", x.setHostnameAsFQDN.map .bool),
    ("shareProcessNamespace", x.shareProcessNamespace.map .bool),
    ("subdomain", x.subdomain.map .str),
    ("terminationGracePeriodSeconds", x.terminationGracePeriodSeconds.map .ofInt64),
    ("tolerations", x.tolerations),
    ("topologySpreadConstraints", x.topologySpreadConstraints),
    ("volumes", x.volumes.map (.arr <| ·.map Volume.toJson))]

structure PodTemplateSpec where
  metadata : Option ObjectMeta := none
  spec : Option PodSpec := none
  deriving DecidableEq, Inhabited

def PodTemplateSpec.ofJson? (value : Json) : Option PodTemplateSpec := do
  let f ← value.object?
  some {
    metadata := ← f.optional "metadata" ObjectMeta.ofJson?
    spec := ← f.optional "spec" PodSpec.ofJson? }

def PodTemplateSpec.toJson (x : PodTemplateSpec) : Json :=
  .object [
    ("metadata", x.metadata.map ObjectMeta.toJson),
    ("spec", x.spec.map PodSpec.toJson)]

end ShardOperator
