import ShardOperator.Proofs.Desired.Objects
import ShardOperator.Proofs.Files.Peers

namespace ShardOperator.Reconcile

variable {i : Installation} {existing : List (Resource .statefulSet)}

/-- Observation changes the flags of the hosts and nothing else about them. -/
theorem hosts_observed (i : Installation) (existing : List (Resource .statefulSet)) :
    (observed i existing).hosts =
      i.hosts.map fun host => { host with flags := observedFlags existing host } :=
  i.hosts_mapHosts _

theorem clusterServices_observed (c : Cluster) (f : Host → Host) :
    (observed i existing).clusterServices (c.mapHosts f) = i.clusterServices c :=
  rfl

/-- The names of an installation's objects do not depend on what is observed. -/
theorem objectNames_observed (i : Installation) (existing : List (Resource .statefulSet)) :
    (observed i existing).objectNames = i.objectNames := by
  funext kind
  have hclusters : (observed i existing).clusters =
      i.clusters.map (·.mapHosts fun host => { host with flags := observedFlags existing host }) :=
    rfl
  have hhosts {β : Type} (name : HostAddress → β) :
      (observed i existing).hosts.map (fun host => name host.address) =
        i.hosts.map fun host => name host.address := by
    rw [hosts_observed, List.map_map]
    rfl
  cases kind with
  | service =>
    simp only [Installation.objectNames, hhosts, hclusters, List.flatMap_map,
      clusterServices_observed]
    rfl
  | configMap =>
    simp only [Installation.objectNames, hhosts]
    rfl
  | statefulSet => exact hhosts HostAddress.workloadName
  | disruptionBudget =>
    simp only [Installation.objectNames, hclusters, List.map_map]
    rfl

theorem placed_observed (placed : i.Placed) (existing : List (Resource .statefulSet)) :
    (observed i existing).Placed := by
  constructor
  · intro c hc
    obtain ⟨d, hd, rfl⟩ := List.mem_map.1 hc
    exact placed.cluster d hd
  · intro host hhost
    rw [hosts_observed] at hhost
    obtain ⟨before, hbefore, rfl⟩ := List.mem_map.1 hhost
    exact placed.host before hbefore

end ShardOperator.Reconcile

namespace ShardOperator.Blueprint

open Reconcile

/-- The blueprint after an observation. -/
def observe (b : Blueprint) (existing : List (Resource .statefulSet)) : Blueprint :=
  { b with installation := observed b.installation existing }

variable (b : Blueprint) (existing : List (Resource .statefulSet)) (host : Host)

/-- The host after an observation. -/
abbrev seen : Host := host.reflag (observedFlags existing)

theorem pod_observe : (b.observe existing).pod (seen existing host) = b.pod host := by
  unfold pod
  rfl

theorem workloadFrame_observe :
    (b.observe existing).workloadFrame (seen existing host) = b.workloadFrame host := by
  unfold workloadFrame
  rw [pod_observe]
  rfl

theorem workload_observe :
    (b.observe existing).workload (seen existing host) = b.workload host := by
  unfold workload workloadSpec
  rw [pod_observe, workloadFrame_observe]
  rfl

theorem hostService_observe :
    (b.observe existing).hostService (seen existing host) = b.hostService host :=
  rfl

theorem hostConfigMap_observe :
    (b.observe existing).hostConfigMap (seen existing host) = b.hostConfigMap host := by
  have hfiles : b.flavour.hostFiles (observed b.installation existing) (seen existing host) =
      b.flavour.hostFiles b.installation host := by
    rw [← b.flavour.hostFiles_mapHosts (g := observedFlags existing) b.installation host]
    cases b.flavour <;> rfl
  change b.configMap host.address.configMapName host.ns host.address.configMapLabels
    (b.flavour.hostFiles (observed b.installation existing) (seen existing host)) = _
  rw [hfiles]
  rfl

/-- The common files are the same as without an observation, if no host is excluded. -/
theorem commonConfigMap_observe {e : Exclusion}
    (h : ∀ host ∈ b.installation.hosts, e.includes (seen existing host) = true) :
    (b.observe existing).commonConfigMap e = b.commonConfigMap .none := by
  have hfiles : b.flavour.commonFiles (observed b.installation existing) e =
      b.flavour.commonFiles b.installation .none := by
    rw [← b.flavour.commonFiles_mapHosts h]
    cases b.flavour <;> rfl
  change b.configMap b.installation.commonConfigMapName b.installation.ns
    b.installation.commonConfigMapLabels
    (b.flavour.commonFiles (observed b.installation existing) e) = _
  rw [hfiles]
  rfl

theorem usersConfigMap_observe : (b.observe existing).usersConfigMap = b.usersConfigMap := by
  have hfiles : b.flavour.usersFiles (observed b.installation existing) =
      b.flavour.usersFiles b.installation := by
    cases b.flavour <;> rfl
  change b.configMap b.installation.usersConfigMapName b.installation.ns
    b.installation.usersConfigMapLabels
    (b.flavour.usersFiles (observed b.installation existing)) = _
  rw [hfiles]
  rfl

theorem installationService_observe :
    (b.observe existing).installationService = b.installationService :=
  rfl

theorem clusterObjects_observe (c : Cluster) (f : Host → Host) :
    (b.observe existing).clusterObjects (c.mapHosts f) = b.clusterObjects c :=
  rfl

theorem budget_observe (c : Cluster) (f : Host → Host) :
    (b.observe existing).budget (c.mapHosts f) = b.budget c :=
  rfl

theorem hosts_observe :
    (b.observe existing).installation.hosts = b.installation.hosts.map (seen existing) :=
  hosts_observed b.installation existing

theorem clusters_observe : (b.observe existing).installation.clusters =
    b.installation.clusters.map (·.mapHosts (seen existing)) :=
  rfl

/-- The objects of an installation do not depend on what is observed. -/
theorem objects_observe : (b.observe existing).objects = b.objects := by
  have hhosts := b.hosts_observe existing
  have hclusters := b.clusters_observe existing
  funext kind
  cases kind with
  | service =>
    simp only [objects, hhosts, hclusters, List.flatMap_map, List.filterMap_map,
      installationService_observe, clusterObjects_observe, Function.comp_def, hostService_observe]
  | configMap =>
    have hcommon := b.commonConfigMap_observe existing (e := .none)
      fun host _ => Exclusion.includes_none (seen existing host)
    simp only [objects, hhosts, List.map_map, Function.comp_def, hostConfigMap_observe, hcommon,
      usersConfigMap_observe]
  | statefulSet =>
    simp only [objects, hhosts, List.map_map, Function.comp_def, workload_observe]
  | disruptionBudget =>
    simp only [objects, hclusters, List.map_map, Function.comp_def, budget_observe]

/-- What can be built does not depend on what is observed. -/
theorem buildable_observe : (b.observe existing).Buildable ↔ b.Buildable := by
  constructor
  · intro h
    have mem_clusters {c : Cluster} (hc : c ∈ b.installation.clusters) :
        c.mapHosts (seen existing) ∈ (b.observe existing).installation.clusters := by
      rw [clusters_observe]
      exact List.mem_map_of_mem hc
    constructor
    · exact h.installation
    · intro host hhost
      refine h.host (seen existing host) ?_
      rw [hosts_observe]
      exact List.mem_map_of_mem hhost
    · intro c hc
      exact h.cluster (c.mapHosts (seen existing)) (mem_clusters hc)
    · intro c hc shard hshard
      exact h.shard (c.mapHosts (seen existing)) (mem_clusters hc) shard hshard
  · intro h
    constructor
    · exact h.installation
    · intro host hhost
      rw [hosts_observe] at hhost
      obtain ⟨before, hbefore, rfl⟩ := List.mem_map.1 hhost
      exact h.host before hbefore
    · intro c hc
      rw [clusters_observe] at hc
      obtain ⟨before, hbefore, rfl⟩ := List.mem_map.1 hc
      exact h.cluster before hbefore
    · intro c hc shard hshard
      rw [clusters_observe] at hc
      obtain ⟨before, hbefore, rfl⟩ := List.mem_map.1 hc
      exact h.shard before hbefore shard hshard

end ShardOperator.Blueprint
