import ShardOperator.Proofs.Desired.Claiming
import ShardOperator.Topology.Normal

namespace ShardOperator

/-- Volumes are told apart by their names, and the mounts of a container by their paths. -/
structure PodSpec.Valid (pod : PodSpec) : Prop where
  volumes : pod.volumeNames.Nodup
  mounts : ∀ c ∈ pod.containers, c.mountPaths.Nodup

namespace Blueprint

variable {b : Blueprint} {host : Host}

theorem valid_defaultPod (b : Blueprint) : b.defaultPod.Valid := by
  refine ⟨List.nodup_nil, fun c hc => ?_⟩
  rw [List.mem_singleton.1 hc]
  exact List.nodup_nil

theorem valid_addLogSidecar {pod : PodSpec} (h : pod.Valid) (b : Blueprint) :
    (b.addLogSidecar pod).Valid := by
  unfold addLogSidecar
  split
  · exact h
  · refine ⟨h.volumes, fun c hc => ?_⟩
    rcases List.mem_append.1 hc with hc | hc
    · exact h.mounts c hc
    · rw [List.mem_singleton.1 hc]
      exact List.nodup_nil

theorem valid_barePod (h : ∀ t, b.podTemplate? host = some t → t.spec.Valid) :
    (b.barePod host).Valid := by
  have hpod : (((b.podTemplate? host).map (·.spec)).getD b.defaultPod).Valid := by
    cases ht : b.podTemplate? host with
    | none => exact b.valid_defaultPod
    | some t => exact h t ht
  unfold barePod
  dsimp only
  split
  · exact valid_addLogSidecar hpod b
  · exact hpod

theorem nodup_paths_configVolumes (b : Blueprint) (host : Host) :
    ((b.configVolumes host).map Prod.snd).Nodup := by
  change [Directory.common, Directory.users, Directory.host].Nodup
  decide

/-- The paths of a container stay distinct where it admits the files of the ConfigMaps; the claims
leave taken paths alone. -/
theorem nodup_mountPaths_equip {c : Container} (h : c.mountPaths.Nodup) :
    (b.equip host c).mountPaths.Nodup ↔ c.Admits (b.configVolumes host) := by
  have hports : (c.exposePorts host).mountPaths.Nodup := h
  unfold equip
  rw [Container.nodup_mountPaths_mountAllFree,
    Container.nodup_mountPaths_mountAll (nodup_paths_configVolumes b host) hports]
  rfl

theorem nodup_volumeNames_equippedPod (h : (b.barePod host).volumeNames.Nodup) :
    (b.equippedPod host).volumeNames.Nodup := by
  rw [equippedPod, PodSpec.volumeNames_mapContainers]
  exact b.nodup_volumeNames_pod host h

/-- The template is the one for the data or for the logs of the host. -/
def IsStorage (b : Blueprint) (host : Host) (t : VolumeClaimTemplate) : Prop :=
  b.claimTemplate? host.templates.dataVolumeClaimTemplate = some t ∨
    b.claimTemplate? host.templates.logVolumeClaimTemplate = some t

theorem exists_claimPlace_iff {name : String} :
    (∃ m ∈ b.claimPlaces host, m.1.name = name) ↔ ∃ t, b.IsStorage host t ∧ t.name = name := by
  constructor
  · rintro ⟨m, hm, hname⟩
    exact ⟨m.1, (mem_claimPlaces.1 hm).imp And.left And.left, hname⟩
  · rintro ⟨t, ht | ht, hname⟩
    · exact ⟨(t, Directory.data), mem_claimPlaces.2 (.inl ⟨ht, rfl⟩), hname⟩
    · exact ⟨(t, Directory.log), mem_claimPlaces.2 (.inr ⟨ht, rfl⟩), hname⟩

/-- A volume of the pod has the name of a claim where the claim is that for data or logs, and a
container mounts it. -/
theorem hasClaim_of_volume {name : String} (h : name ∈ (b.equippedPod host).volumeNames) :
    (b.workloadSpec host).hasClaim name = true ↔ (∃ t, b.IsStorage host t ∧ t.name = name) ∧
      ∃ c ∈ (b.equippedPod host).containers, c.mountsVolume name = true := by
  rw [hasClaim_workloadSpec, or_iff_right fun hfresh => hfresh h, exists_claimPlace_iff]
  constructor
  · rintro ⟨-, hmounted, hstorage⟩
    exact ⟨hstorage, hmounted⟩
  · rintro ⟨⟨t, ht, rfl⟩, hmounted⟩
    exact ⟨⟨t, ht.elim declared_of_claimTemplate? declared_of_claimTemplate?⟩, hmounted, t, ht, rfl⟩

end Blueprint

/-- What a valid pod template makes of a workload. The volumes of the pod are named apart; they are
those of the template and the ConfigMaps. The mounts of a container are at distinct paths exactly
where its template leaves the directories of the ConfigMaps free, or has the ConfigMaps themselves
mounted; init containers stay as they are. A claim has the name of a volume exactly where it is the
one for data or logs, and a container mounts it. -/
theorem pod_valid_iff {b : Blueprint} {host : Host}
    (valid : ∀ t, b.podTemplate? host = some t → t.spec.Valid) :
    ∃ spec pod, (b.workload host).body = { spec := some spec } ∧
      spec.template.spec = some pod ∧
      pod.initContainers = (b.barePod host).initContainers ∧
      pod.volumeNames.Nodup ∧
      (∀ name, name ∈ pod.volumeNames ↔ name ∈ (b.barePod host).volumeNames ∨
        name ∈ (b.configVolumes host).map Prod.fst) ∧
      List.Forall₂ (fun c d => d.mountPaths.Nodup ↔ c.Admits (b.configVolumes host))
        (b.barePod host).containers pod.containers ∧
      (∀ name ∈ pod.volumeNames, spec.hasClaim name = true ↔
        (∃ t, b.IsStorage host t ∧ t.name = name) ∧
          ∃ c ∈ pod.containers, c.mountsVolume name = true) := by
  have bare := Blueprint.valid_barePod valid
  refine ⟨b.workloadSpec host, b.equippedPod host, rfl, b.pod_workloadSpec host, ?_,
    Blueprint.nodup_volumeNames_equippedPod bare.volumes,
    fun name => Blueprint.mem_volumeNames_equippedPod, ?_, fun name => Blueprint.hasClaim_of_volume⟩
  · exact congrArg (·.initContainers) (b.outline_equippedPod host)
  · rw [Blueprint.containers_equippedPod, List.forall₂_map_right_iff, List.forall₂_same]
    exact fun c hc => Blueprint.nodup_mountPaths_equip (bare.mounts c hc)

/-- One host that takes its pod and the claim for its data from templates. -/
def storing (pod : PodSpec) : InstallationResource where
  metadata := { ns := some "ns", name := some "demo", uid := some "uid-1" }
  spec := {
    defaults := some { templates := some {
      podTemplate := some "pod", dataVolumeClaimTemplate := some "data" } }
    configuration := { clusters := [{ name := "main" }] }
    templates := some {
      podTemplates := [{ name := "pod", spec := pod }]
      volumeClaimTemplates := [{ name := "data" }] } }

/-- A pod that has a volume of its own in a directory of its own. -/
def roomyPod : PodSpec where
  containers := [{
    name := "clickhouse"
    volumeMounts := some [{ mountPath := "/scratch", name := "scratch" }] }]
  volumes := some [{ emptyDir := some {}, name := "scratch" }]

/-- The general result at a pod that leaves enough room: it stays valid, and hides no volume. -/
theorem pod_valid_iff_roomy :
    ∃ i host spec pod, (storing roomyPod).normalize {} = .ok i ∧ i.hosts = [host] ∧
      roomyPod.Valid ∧
      (⟨i, {}, .server⟩ : Blueprint).podTemplate? host =
        some { name := "pod", spec := roomyPod } ∧
      ((⟨i, {}, .server⟩ : Blueprint).workload host).body = { spec := some spec } ∧
      spec.template.spec = some pod ∧ pod.Valid ∧
      ∀ name ∈ pod.volumeNames, ¬spec.hasClaim name = true := by
  obtain ⟨i, host, hi, hhosts, htemplate, hbare, hconfig, hclaims⟩ :
      ∃ i host, (storing roomyPod).normalize {} = .ok i ∧ i.hosts = [host] ∧
        (⟨i, {}, .server⟩ : Blueprint).podTemplate? host =
          some { name := "pod", spec := roomyPod } ∧
        (⟨i, {}, .server⟩ : Blueprint).barePod host = roomyPod ∧
        (⟨i, {}, .server⟩ : Blueprint).configVolumes host = [
          ("chi-demo-common-configd", Directory.common),
          ("chi-demo-common-usersd", Directory.users),
          ("chi-demo-deploy-confd-main-0-0", Directory.host)] ∧
        (⟨i, {}, .server⟩ : Blueprint).claimPlaces host =
          [({ name := "data" }, Directory.data)] :=
    ⟨_, _, rfl, rfl, rfl, rfl, rfl, rfl⟩
  have hvalid : roomyPod.Valid := ⟨by decide, by decide⟩
  obtain ⟨spec, pod, hbody, hpod, -, hvolumes, hnames, hmounts, hhidden⟩ :=
    @pod_valid_iff ⟨i, {}, .server⟩ host fun t ht => by
      rw [htemplate] at ht
      obtain rfl := Option.some.inj ht
      exact hvalid
  rw [hbare, hconfig] at hmounts hnames
  refine ⟨i, host, spec, pod, hi, hhosts, hvalid, htemplate, hbody, hpod,
    ⟨hvolumes, fun d hd => ?_⟩, fun name hname hclaim => ?_⟩
  · obtain ⟨c, rest, hiff, hrest, hcontainers⟩ := List.forall₂_cons_left_iff.1 hmounts
    obtain rfl := List.forall₂_nil_left_iff.1 hrest
    obtain rfl := List.mem_singleton.1 (hcontainers ▸ hd)
    exact hiff.2 (Container.admits_of_free (by decide))
  · obtain ⟨hstorage, -⟩ := (hhidden name hname).1 hclaim
    obtain ⟨m, hm, rfl⟩ := Blueprint.exists_claimPlace_iff.2 hstorage
    rw [hclaims, List.mem_singleton] at hm
    have hnamed : m.1.name = "data" := by rw [hm]
    rw [hnames, hnamed] at hname
    exact absurd hname (by decide)

/-- A pod that has its data on a volume of its own, and mounts another one where the common files
go. -/
def crowdedPod : PodSpec where
  containers := [{
    name := "clickhouse"
    volumeMounts := some [
      { mountPath := "/var/lib/clickhouse", name := "data" },
      { mountPath := "/etc/clickhouse-server/config.d/", name := "extra" }] }]
  volumes := some [
    { emptyDir := some {}, name := "data" },
    { emptyDir := some {}, name := "extra" }]

/-- A valid template is made into a pod with two mounts at one path, and with a volume that a claim
of the same name replaces. -/
theorem pod_invalid_from_valid_template :
    ∃ i host spec pod, (storing crowdedPod).normalize {} = .ok i ∧ i.hosts = [host] ∧
      crowdedPod.Valid ∧
      (⟨i, {}, .server⟩ : Blueprint).podTemplate? host =
        some { name := "pod", spec := crowdedPod } ∧
      ((⟨i, {}, .server⟩ : Blueprint).workload host).body = { spec := some spec } ∧
      spec.template.spec = some pod ∧
      pod.containers.map (·.mountPaths) = [[
        "/var/lib/clickhouse", "/etc/clickhouse-server/config.d/",
        "/etc/clickhouse-server/config.d/", "/etc/clickhouse-server/users.d/",
        "/etc/clickhouse-server/conf.d/"]] ∧
      pod.volumeNames = ["data", "extra", "chi-demo-common-configd", "chi-demo-common-usersd",
        "chi-demo-deploy-confd-main-0-0"] ∧
      spec.claims.map (·.metadata.name) = [some "data"] := by
  have hvalid : crowdedPod.Valid := ⟨by decide, by decide⟩
  exact ⟨_, _, _, _, rfl, rfl, hvalid, rfl, rfl, rfl, rfl, rfl, rfl⟩

end ShardOperator
