import ShardOperator.Proofs.Topology.Laying

namespace ShardOperator

namespace Cluster

theorem hosts_mapHosts (c : Cluster) (f : Host → Host) : (c.mapHosts f).hosts = c.hosts.map f := by
  simp only [hosts, mapHosts, List.flatMap_map, List.map_flatMap]
  congr 1
  funext row
  induction row with
  | nil => rfl
  | cons cell row ih => cases cell <;> simp_all

theorem ofSpec_placed (i : Installation) (spec : ClusterSpec) (index : Nat)
    (defaults : HostDefaults) :
    (ofSpec i spec index defaults).ns = i.ns ∧
      (ofSpec i spec index defaults).installation = i.name ∧
      ∀ host ∈ (ofSpec i spec index defaults).hosts,
        host.address.ns = i.ns ∧ host.address.installation = i.name := by
  obtain ⟨shards, replicas, rows, hframe⟩ := frame_ofSpec i spec index defaults
  refine ⟨by rw [hframe]; rfl, by rw [hframe]; rfl, fun host hhost => ?_⟩
  obtain ⟨s, r, hplace⟩ := mem_hosts_iff.1 hhost
  obtain ⟨_, _, -, -, haddress⟩ := address_ofSpec hplace
  rw [haddress]
  exact ⟨rfl, rfl⟩

end Cluster

namespace Installation

/-- Every cluster and every host belongs to the installation by its namespace and name. -/
structure Placed (i : Installation) : Prop where
  cluster : ∀ c ∈ i.clusters, c.ns = i.ns ∧ c.installation = i.name
  host : ∀ host ∈ i.hosts, host.address.ns = i.ns ∧ host.address.installation = i.name

theorem hosts_mapHosts (i : Installation) (f : Host → Host) :
    (i.mapHosts f).hosts = i.hosts.map f := by
  simp only [hosts, mapHosts, List.flatMap_map, List.map_flatMap, Cluster.hosts_mapHosts]

end Installation

namespace InstallationResource

/-- A cluster is added after it has passed three checks. -/
theorem addClusters_cons {defaults : HostDefaults} {spec : ClusterSpec} {rest : List ClusterSpec}
    {i j : Installation} (h : addClusters defaults i (spec :: rest) = .ok j) :
    let cluster := Cluster.ofSpec i spec i.clusters.length defaults
    spec.name ≠ "" ∧ i.clusters.any (·.name == spec.name) = false ∧
      cluster.checkNames = .ok () ∧
      addClusters defaults { i with clusters := i.clusters ++ [cluster] } rest = .ok j := by
  intro cluster
  unfold addClusters at h
  by_cases hname : spec.name = ""
  · rw [if_pos hname] at h
    cases h
  · rw [if_neg hname] at h
    cases hany : i.clusters.any (·.name == spec.name) with
    | true =>
      rw [if_pos hany] at h
      cases h
    | false =>
      rw [if_neg (by rw [hany]; exact Bool.false_ne_true)] at h
      cases hcheck : cluster.checkNames with
      | error e =>
        change cluster.checkNames.bind _ = _ at h
        rw [hcheck] at h
        cases h
      | ok done =>
        change cluster.checkNames.bind _ = _ at h
        rw [hcheck] at h
        exact ⟨hname, rfl, rfl, h⟩

theorem addClusters_placed {defaults : HostDefaults} {specs : List ClusterSpec}
    {i j : Installation} (hi : i.Placed) (h : addClusters defaults i specs = .ok j) :
    j.Placed ∧ j = { i with clusters := j.clusters } := by
  induction specs generalizing i with
  | nil =>
    obtain rfl : i = j := Except.ok.inj h
    exact ⟨hi, rfl⟩
  | cons spec rest ih =>
    obtain ⟨-, -, -, h⟩ := addClusters_cons h
    have hc := Cluster.ofSpec_placed i spec i.clusters.length defaults
    have placed : Installation.Placed { i with
        clusters := i.clusters ++ [Cluster.ofSpec i spec i.clusters.length defaults] } := by
      refine ⟨fun c hmem => ?_, fun host hmem => ?_⟩
      · rcases List.mem_append.1 hmem with hmem | hmem
        · exact hi.cluster c hmem
        · obtain rfl := List.mem_singleton.1 hmem
          exact ⟨hc.1, hc.2.1⟩
      · simp only [Installation.hosts, List.flatMap_append, List.flatMap_singleton,
          List.mem_append] at hmem
        rcases hmem with hmem | hmem
        · exact hi.host host hmem
        · exact hc.2.2 host hmem
    obtain ⟨hj, hframe⟩ := ih placed h
    exact ⟨hj, hframe⟩

/-- What normalization makes of a resource besides its clusters stands in the resource. -/
theorem normalize_spec {chi : InstallationResource} {defaults : HostDefaults} {i : Installation}
    (h : chi.normalize defaults = .ok i) :
    i.Placed ∧
      ∃ ns, chi.metadata.ns = some ns ∧ i = { chi.frame ns with clusters := i.clusters } := by
  unfold normalize at h
  split at h
  · cases h
  · next ns hns =>
    have start : (chi.frame ns).Placed :=
      ⟨fun c hc => absurd hc List.not_mem_nil, fun host hh => absurd hh List.not_mem_nil⟩
    obtain ⟨hp, hframe⟩ := addClusters_placed start h
    exact ⟨hp, ns, hns, hframe⟩

end InstallationResource

end ShardOperator
