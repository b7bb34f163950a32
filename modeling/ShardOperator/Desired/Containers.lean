import ShardOperator.Platform.Pod
import ShardOperator.Platform.Port
import ShardOperator.Topology.Host

namespace ShardOperator

/-- The first port of a name gets the number and loses its port on the node; where the name is
missing, a port is added at the end. -/
def setNamedPort (name : String) (number : Int32) : List ContainerPort → List ContainerPort
  | [] => [{ containerPort := number, name := some name, protocol := some "TCP" }]
  | port :: rest =>
    if port.name = some name then { port with containerPort := number, hostPort := none } :: rest
    else port :: setNamedPort name number rest

namespace Container

def exposePort (c : Container) (name : String) (number : Int32) : Container :=
  { c with ports := some (setNamedPort name number (c.ports.getD [])) }

/-- Exposes the three ports of a host. -/
def exposePorts (c : Container) (host : Host) : Container :=
  ((c.exposePort PortName.http host.httpPort).exposePort PortName.tcp host.tcpPort).exposePort
    PortName.interserver host.interserverPort

def mounts (c : Container) : List VolumeMount := c.volumeMounts.getD []

def mountsVolume (c : Container) (volume : String) : Bool := c.mounts.any (·.name == volume)

def mountsAt (c : Container) (path : String) : Bool := c.mounts.any (·.mountPath == path)

def addMount (c : Container) (volume path : String) : Container :=
  { c with volumeMounts := some (c.mounts ++ [{ mountPath := path, name := volume }]) }

/-- Mounts a volume that is not mounted yet. -/
def mount (c : Container) (volume path : String) : Container :=
  if c.mountsVolume volume then c else c.addMount volume path

/-- Mounts a volume that is not mounted yet where the path is free. -/
def mountIfFree (c : Container) (volume path : String) : Container :=
  if c.mountsVolume volume || c.mountsAt path then c else c.addMount volume path

end Container

namespace PodSpec

def mapContainers (pod : PodSpec) (f : Container → Container) : PodSpec :=
  { pod with containers := pod.containers.map f }

def addHostAlias (pod : PodSpec) (ip hostname : String) : PodSpec :=
  let added : HostAlias := { ip, hostnames := some [hostname] }
  { pod with hostAliases := some (pod.hostAliases.getD [] ++ [added]) }

def volumeNames (pod : PodSpec) : List String := (pod.volumes.getD []).map (·.name)

/-- Adds a volume with the files of a ConfigMap unless the name is taken. -/
def addConfigVolume (pod : PodSpec) (configMap : String) : PodSpec :=
  if pod.volumeNames.contains configMap then pod
  else
    let volume : Volume := { name := configMap, configMap := some { name := configMap } }
    { pod with volumes := some (pod.volumes.getD [] ++ [volume]) }

/-- The names that containers mount and that are no volumes of the pod, in mounting order. -/
def mountedClaims (pod : PodSpec) : List String :=
  (pod.containers.flatMap (·.mounts.map (·.name))).filter (!pod.volumeNames.contains ·)

end PodSpec

end ShardOperator
