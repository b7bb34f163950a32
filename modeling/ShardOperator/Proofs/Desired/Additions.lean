import ShardOperator.Proofs.Desired.Ports
import ShardOperator.Proofs.Desired.Selection

namespace ShardOperator

/-- The ports of a host by their names. -/
def Host.namedPorts (host : Host) : NamedPorts :=
  [(PortName.http, host.httpPort), (PortName.tcp, host.tcpPort),
    (PortName.interserver, host.interserverPort)]

theorem Host.nodup_namedPorts (host : Host) : (host.namedPorts.map Prod.fst).Nodup := by
  change [PortName.http, PortName.tcp, PortName.interserver].Nodup
  decide

namespace Container

def portList (c : Container) : List ContainerPort := c.ports.getD []

/-- The container without its ports and its mounts. -/
def outline (c : Container) : Container := { c with ports := none, volumeMounts := none }

theorem portList_exposePorts (c : Container) (host : Host) :
    (c.exposePorts host).portList = setNamedPorts host.namedPorts c.portList :=
  rfl

/-- Mounting changes nothing but the mounts. -/
theorem exists_mount (c : Container) (place : String × String) :
    ∃ mounts, c.mount place.1 place.2 = { c with volumeMounts := mounts } := by
  unfold mount
  split
  · exact ⟨c.volumeMounts, rfl⟩
  · exact ⟨_, rfl⟩

theorem exists_mountIfFree (c : Container) (place : String × String) :
    ∃ mounts, c.mountIfFree place.1 place.2 = { c with volumeMounts := mounts } := by
  unfold mountIfFree
  split
  · exact ⟨c.volumeMounts, rfl⟩
  · exact ⟨_, rfl⟩

theorem exists_foldl {step : Container → String × String → Container}
    (hstep : ∀ c place, ∃ mounts, step c place = { c with volumeMounts := mounts })
    (c : Container) (places : Places) :
    ∃ mounts, places.foldl step c = { c with volumeMounts := mounts } := by
  induction places generalizing c with
  | nil => exact ⟨c.volumeMounts, rfl⟩
  | cons place rest ih =>
    obtain ⟨first, hfirst⟩ := hstep c place
    obtain ⟨mounts, hmounts⟩ := ih (step c place)
    refine ⟨mounts, hmounts.trans ?_⟩
    rw [hfirst]

/-- A container with additions: mounts behind its own, the ports of its host, and in all else what
it was. -/
structure Extends (host : Host) (c d : Container) : Prop where
  rest : d.outline = c.outline
  mounts : c.mounts <+: d.mounts
  ports : Exposes host.namedPorts c.portList d.portList

end Container

namespace PodSpec

theorem volumes_addConfigVolume (pod : PodSpec) (name : String) :
    pod.volumes.getD [] <+: (pod.addConfigVolume name).volumes.getD [] := by
  unfold addConfigVolume
  split
  · exact List.prefix_refl _
  · exact List.prefix_append ..

theorem volumes_mountConfig (pod : PodSpec) (places : Places) :
    pod.volumes.getD [] <+: (pod.mountConfig places).volumes.getD [] := by
  induction places generalizing pod with
  | nil => exact List.prefix_refl _
  | cons place rest ih =>
    have hfirst := (pod.mapContainers (·.mount place.1 place.2)).volumes_addConfigVolume place.1
    exact hfirst.trans (ih _)

theorem hostAliases_mountConfig (pod : PodSpec) (places : Places) :
    (pod.mountConfig places).hostAliases = pod.hostAliases := by
  have hvolume (pod : PodSpec) (name : String) :
      (pod.addConfigVolume name).hostAliases = pod.hostAliases := by
    unfold addConfigVolume
    split <;> rfl
  induction places generalizing pod with
  | nil => rfl
  | cons place rest ih => exact (ih _).trans (hvolume _ place.1)

end PodSpec

namespace Blueprint

variable (b : Blueprint) (host : Host)

/-- The pod that the host's template describes, or the default one without a template. -/
def templatePod : PodSpec := ((b.podTemplate? host).map (·.spec)).getD b.defaultPod

def templateMetadata : ObjectMeta := ((b.podTemplate? host).bind (·.metadata)).getD {}

/-- The host names a template for its logs, and no container has the name of the sidecar. -/
def GetsSidecar : Prop :=
  host.templates.logVolumeClaimTemplate.isSome = true ∧
    ∀ c ∈ (b.templatePod host).containers, c.name ≠ logContainer

variable {b host}

theorem barePod_of_getsSidecar (h : b.GetsSidecar host) :
    b.barePod host = { b.templatePod host with
      containers := (b.templatePod host).containers ++ [b.logSidecar] } := by
  have hnone : ¬(b.templatePod host).containers.any (·.name == logContainer) = true := by
    simpa using h.2
  exact (if_pos h.1).trans (if_neg hnone)

theorem barePod_of_not_getsSidecar (h : ¬b.GetsSidecar host) :
    b.barePod host = b.templatePod host := by
  by_cases hlog : host.templates.logVolumeClaimTemplate.isSome = true
  · have hsome : (b.templatePod host).containers.any (·.name == logContainer) = true := by
      by_contra hnone
      exact h ⟨hlog, by simpa using hnone⟩
    exact (if_pos hlog).trans (if_pos hsome)
  · exact if_neg hlog

/-- The sidecar is the only difference before ports, files and claims are added. -/
theorem exists_barePod (b : Blueprint) (host : Host) :
    ∃ containers, b.barePod host = { b.templatePod host with containers } := by
  by_cases h : b.GetsSidecar host
  · exact ⟨_, barePod_of_getsSidecar h⟩
  · exact ⟨_, barePod_of_not_getsSidecar h⟩

/-- A container is equipped with the ports of its host and with mounts. -/
theorem exists_equip (b : Blueprint) (host : Host) (c : Container) :
    ∃ mounts, b.equip host c = { c.exposePorts host with volumeMounts := mounts } := by
  obtain ⟨first, hfirst⟩ := Container.exists_foldl Container.exists_mount (c.exposePorts host)
    (b.configVolumes host)
  obtain ⟨mounts, hmounts⟩ := Container.exists_foldl Container.exists_mountIfFree
    ((c.exposePorts host).mountAll (b.configVolumes host)) (b.claimPlaces host).places
  refine ⟨mounts, hmounts.trans ?_⟩
  rw [Container.mountAll, hfirst]

theorem portList_equip (b : Blueprint) (host : Host) (c : Container) :
    (b.equip host c).portList = setNamedPorts host.namedPorts c.portList := by
  obtain ⟨mounts, hequip⟩ := b.exists_equip host c
  rw [hequip]
  exact c.portList_exposePorts host

theorem extends_equip (b : Blueprint) (host : Host) (c : Container) :
    c.Extends host (b.equip host c) := by
  obtain ⟨mounts, hequip⟩ := b.exists_equip host c
  obtain ⟨added, hadded, -⟩ := b.gains_equip host c
  refine ⟨?_, ⟨added, hadded.symm⟩, ?_⟩
  · rw [hequip]
    rfl
  · rw [portList_equip]
    exact exposes_setNamedPorts host.nodup_namedPorts c.portList

/-- What the pod of a workload keeps of its template, and all that is added to it. -/
structure KeepsTemplate (b : Blueprint) (host : Host) (metadata : ObjectMeta) (pod : PodSpec) :
    Prop where
  containers : ∃ own added, pod.containers = own ++ added ∧
    List.Forall₂ (Container.Extends host) (b.templatePod host).containers own ∧
    (b.GetsSidecar host → ∃ d, added = [d] ∧ Container.Extends host b.logSidecar d) ∧
    (¬b.GetsSidecar host → added = [])
  exposed : ∀ d ∈ pod.containers, ∀ p ∈ host.namedPorts,
    ∃ port, portNamed? p.1 d.portList = some port ∧ port.containerPort = p.2
  volumes : (b.templatePod host).volumes.getD [] <+: pod.volumes.getD []
  hostAliases : (b.templatePod host).hostAliases.getD [] <+: pod.hostAliases.getD []
  rest : pod.outline = (b.templatePod host).outline
  annotations : metadata.annotations = (b.templateMetadata host).annotations
  labels : ∃ labels, metadata.labels = some labels ∧ ∀ key, labels.find? key =
    ((b.templateLabels host).find? key).or (host.address.labels.find? key)

theorem volumes_pod (b : Blueprint) (host : Host) :
    (b.barePod host).volumes.getD [] <+: (b.pod host).volumes.getD [] := by
  have hmounted := PodSpec.volumes_mountConfig (((b.barePod host).mapContainers
    (·.exposePorts host)).addHostAlias "127.0.0.1" host.address.workloadName) (b.configVolumes host)
  exact hmounted

theorem hostAliases_pod (b : Blueprint) (host : Host) :
    (b.barePod host).hostAliases.getD [] <+: (b.pod host).hostAliases.getD [] := by
  rw [pod_eq, PodSpec.hostAliases_mountConfig]
  exact List.prefix_append ..

theorem containers_equippedPod_of_getsSidecar (h : b.GetsSidecar host) :
    (b.equippedPod host).containers =
      (b.templatePod host).containers.map (b.equip host) ++ [b.equip host b.logSidecar] := by
  rw [containers_equippedPod, barePod_of_getsSidecar h, List.map_append, List.map_singleton]

theorem containers_equippedPod_of_not_getsSidecar (h : ¬b.GetsSidecar host) :
    (b.equippedPod host).containers = (b.templatePod host).containers.map (b.equip host) := by
  rw [containers_equippedPod, barePod_of_not_getsSidecar h]

theorem keepsTemplate_equippedPod (b : Blueprint) (host : Host) :
    b.KeepsTemplate host (b.podMetadata host) (b.equippedPod host) := by
  obtain ⟨containers, hbare⟩ := b.exists_barePod host
  have hown : List.Forall₂ (Container.Extends host) (b.templatePod host).containers
      ((b.templatePod host).containers.map (b.equip host)) := by
    rw [List.forall₂_map_right_iff, List.forall₂_same]
    exact fun c _ => b.extends_equip host c
  constructor
  case containers =>
    by_cases h : b.GetsSidecar host
    · exact ⟨_, _, containers_equippedPod_of_getsSidecar h, hown,
        fun _ => ⟨_, rfl, b.extends_equip host b.logSidecar⟩, fun hnot => absurd h hnot⟩
    · refine ⟨_, [], ?_, hown, fun hgets => absurd hgets h, fun _ => rfl⟩
      rw [containers_equippedPod_of_not_getsSidecar h, List.append_nil]
  case exposed =>
    intro d hd p hp
    rw [containers_equippedPod] at hd
    obtain ⟨c, -, rfl⟩ := List.mem_map.1 hd
    rw [portList_equip]
    exact portNamed?_setNamedPorts host.nodup_namedPorts hp c.portList
  case volumes =>
    have hvolumes := b.volumes_pod host
    rw [hbare] at hvolumes
    exact hvolumes
  case hostAliases =>
    have haliases := b.hostAliases_pod host
    rw [hbare] at haliases
    exact haliases
  case rest =>
    rw [outline_equippedPod, hbare]
    rfl
  case annotations => rfl
  case labels => exact ⟨b.podLabels host, rfl, b.find?_podLabels host⟩

end Blueprint

/-- The pod of a workload is its template with additions, whatever the installation and the
template. Containers keep their order and everything about them, with mounts behind their own, and
with the ports of the host in place of the first ones of their names or behind the others. The only
container that is added is the sidecar for logs. Volumes and host aliases stay in front of those
that are added, annotations and labels stay, and so does the rest of the pod. -/
theorem workload_keeps_template (b : Blueprint) (host : Host) :
    ∃ spec metadata pod, (b.workload host).body = { spec := some spec } ∧
      spec.template = { metadata := some metadata, spec := some pod } ∧
      b.KeepsTemplate host metadata pod := by
  refine ⟨b.workloadSpec host, b.podMetadata host, b.equippedPod host, rfl, ?_,
    b.keepsTemplate_equippedPod host⟩
  have hmetadata : (b.workloadSpec host).template.metadata = some (b.podMetadata host) :=
    congrArg (·.template.metadata) (b.outline_workloadSpec host)
  rw [← hmetadata, ← b.pod_workloadSpec host]

end ShardOperator
