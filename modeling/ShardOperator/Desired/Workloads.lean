import ShardOperator.Desired.Blueprint
import ShardOperator.Desired.Claims

namespace ShardOperator

namespace Directory

def common : String := "/etc/clickhouse-server/config.d/"
def users : String := "/etc/clickhouse-server/users.d/"
def host : String := "/etc/clickhouse-server/conf.d/"
def data : String := "/var/lib/clickhouse"
def log : String := "/var/log/clickhouse-server"

end Directory

def serverContainer : String := "clickhouse"
def logContainer : String := "clickhouse-log"

def pingProbe (initialDelay period : Int32) : Probe where
  httpGet := some { path := some "/ping", port := .text PortName.http }
  initialDelaySeconds := some initialDelay
  periodSeconds := some period

namespace Blueprint

/-- The pod of a host that names no template. -/
def defaultPod (b : Blueprint) : PodSpec where
  containers := [{
    name := serverContainer
    image := some b.defaults.image
    readinessProbe := some (pingProbe 10 3)
    livenessProbe := some { pingProbe 60 3 with failureThreshold := some 10 } }]

/-- A container that keeps the log volume readable. -/
def logSidecar (b : Blueprint) : Container where
  name := logContainer
  image := some b.defaults.logImage
  command := some ["/bin/sh", "-c", "--"]
  args := some ["while true; do sleep 30; done;"]

def podTemplate? (b : Blueprint) (host : Host) : Option PodTemplate :=
  host.templates.podTemplate.bind b.installation.templates.pod?

def podMetadata (b : Blueprint) (host : Host) : ObjectMeta :=
  let m := ((b.podTemplate? host).bind (·.metadata)).getD {}
  { m with
    name := none
    ns := none
    labels := some (host.address.labels.keepExisting m.labels) }

def addLogSidecar (b : Blueprint) (pod : PodSpec) : PodSpec :=
  if pod.containers.any (·.name == logContainer) then pod
  else { pod with containers := pod.containers ++ [b.logSidecar] }

/-- The ConfigMaps of a host with the directories that they are mounted in. -/
def configVolumes (b : Blueprint) (host : Host) : List (String × String) :=
  [(b.installation.commonConfigMapName, Directory.common),
   (b.installation.usersConfigMapName, Directory.users),
   (host.address.configMapName, Directory.host)]

/-- The pod of a host: what its template says, and besides the log sidecar, the ports, the host's
own name, and the configuration. -/
def pod (b : Blueprint) (host : Host) : PodSpec :=
  let pod := ((b.podTemplate? host).map (·.spec)).getD b.defaultPod
  let pod := if host.templates.logVolumeClaimTemplate.isSome then b.addLogSidecar pod else pod
  let pod := pod.mapContainers (·.exposePorts host)
  let pod := pod.addHostAlias "127.0.0.1" host.address.workloadName
  (b.configVolumes host).foldl
    (fun pod v => (pod.mapContainers (·.mount v.1 v.2)).addConfigVolume v.1) pod

def claimTemplate? (b : Blueprint) (name : Option String) : Option VolumeClaimTemplate :=
  name.bind b.installation.templates.volumeClaim?

/-- The workload without its claims. -/
def workloadFrame (b : Blueprint) (host : Host) : StatefulSetSpec where
  replicas := some (if b.installation.stop then 0 else 1)
  serviceName := some host.address.workloadName
  selector := { matchLabels := some host.address.selector }
  template := { metadata := some (b.podMetadata host), spec := some (b.pod host) }

/-- The claims that containers mount by name come first, then those for data and logs. -/
def workloadSpec (b : Blueprint) (host : Host) : StatefulSetSpec :=
  let mounted := (b.pod host).mountedClaims.filterMap b.installation.templates.volumeClaim?
  let spec := mounted.foldl StatefulSetSpec.addClaim (b.workloadFrame host)
  let mountClaim (spec : StatefulSetSpec) (name : Option String) (path : String) :=
    match b.claimTemplate? name with
    | some t => spec.mountClaim t path
    | none => spec
  let spec := mountClaim spec host.templates.dataVolumeClaimTemplate Directory.data
  mountClaim spec host.templates.logVolumeClaimTemplate Directory.log

/-- The workload that runs one host. -/
def workload (b : Blueprint) (host : Host) : Resource .statefulSet :=
  b.finish {
    metadata := .generated host.address.workloadName host.address.ns host.address.labels
    body := { spec := some (b.workloadSpec host) } }

end Blueprint

end ShardOperator
