import ShardOperator.Proofs.Topology.Placement
import ShardOperator.Reconcile.Observation
import ShardOperator.Reconcile.Sweep

namespace ShardOperator

namespace Installation

/-- A name that a template of the installation has. -/
def resolves (i : Installation) (name : Option String) : Bool :=
  (name.bind i.templates.service?).isSome

/-- The Services of a cluster and of its shards: there is one where a template resolves. -/
def clusterServices (i : Installation) (c : Cluster) : List String :=
  let own := if i.resolves c.templates.clusterServiceTemplate then [c.serviceName] else []
  own ++ (c.shards.filter (i.resolves ·.templates.shardServiceTemplate)).map c.shardServiceName

/-- The names of the objects that an installation is made of. -/
def objectNames (i : Installation) : Kind → List String
  | .service =>
    i.serviceName :: (i.clusters.flatMap i.clusterServices ++ i.hosts.map (·.address.workloadName))
  | .configMap =>
    i.commonConfigMapName :: i.usersConfigMapName :: i.hosts.map (·.address.configMapName)
  | .statefulSet => i.hosts.map (·.address.workloadName)
  | .disruptionBudget => i.clusters.map Cluster.budgetName

end Installation

namespace Blueprint

theorem isWanted_some (built : Outcome (Resource .service)) : isWanted (some <$> built) = true := by
  cases built <;> rfl

theorem isWanted_clusterService? (b : Blueprint) (c : Cluster) :
    isWanted (b.clusterService? c) =
      b.installation.resolves c.templates.clusterServiceTemplate := by
  unfold clusterService? serviceTemplate? Installation.resolves
  cases c.templates.clusterServiceTemplate.bind b.installation.templates.service? with
  | none => rfl
  | some t => exact isWanted_some _

theorem isWanted_shardService? (b : Blueprint) (c : Cluster) (shard : Shard) :
    isWanted (b.shardService? c shard) =
      b.installation.resolves shard.templates.shardServiceTemplate := by
  unfold shardService? serviceTemplate? Installation.resolves
  cases shard.templates.shardServiceTemplate.bind b.installation.templates.service? with
  | none => rfl
  | some t => exact isWanted_some _

/-- What the sweep spares are the names of the installation's objects. -/
theorem desiredNames_eq (b : Blueprint) (kind : Kind) :
    b.desiredNames kind = b.installation.objectNames kind := by
  have hcluster : b.clusterServiceNames = b.installation.clusterServices := by
    funext c
    simp only [clusterServiceNames, Installation.clusterServices, isWanted_clusterService?,
      isWanted_shardService?]
  cases kind <;> simp only [desiredNames, Installation.objectNames, hcluster]

/-- A Service that is made for a cluster has its place among the names. -/
theorem mem_objectNames_clusterService {b : Blueprint} {c : Cluster} {service : Resource .service}
    (hc : c ∈ b.installation.clusters) (h : b.clusterService? c = .ok (some service)) :
    c.serviceName ∈ b.installation.objectNames .service := by
  have hwanted : b.installation.resolves c.templates.clusterServiceTemplate = true := by
    rw [← isWanted_clusterService?, h]
    rfl
  refine List.mem_cons_of_mem _ (List.mem_append_left _ (List.mem_flatMap.2 ⟨c, hc, ?_⟩))
  simp [Installation.clusterServices, hwanted]

theorem mem_objectNames_shardService {b : Blueprint} {c : Cluster} {shard : Shard}
    {service : Resource .service} (hc : c ∈ b.installation.clusters) (hshard : shard ∈ c.shards)
    (h : b.shardService? c shard = .ok (some service)) :
    c.shardServiceName shard ∈ b.installation.objectNames .service := by
  have hwanted : b.installation.resolves shard.templates.shardServiceTemplate = true := by
    rw [← isWanted_shardService?, h]
    rfl
  refine List.mem_cons_of_mem _ (List.mem_append_left _ (List.mem_flatMap.2 ⟨c, hc, ?_⟩))
  exact List.mem_append_right _
    (List.mem_map_of_mem (List.mem_filter.2 ⟨hshard, hwanted⟩))

end Blueprint

namespace HostAddress

theorem workloadName_eq_iff {a b : HostAddress} (h : a.installation = b.installation) :
    a.workloadName = b.workloadName ↔ a.configMapName = b.configMapName := by
  simp only [workloadName, configMapName, h, ← String.toList_inj, String.toList_append,
    List.append_assoc, List.append_cancel_left_eq]

end HostAddress

namespace Installation

variable {i : Installation}

theorem workloadName_ne_serviceName (a : HostAddress) : a.workloadName ≠ i.serviceName := by
  intro h
  have h := congrArg String.toList h
  simp [HostAddress.workloadName, serviceName] at h

theorem workloadName_ne_cluster (a : HostAddress) (c : Cluster) :
    a.workloadName ≠ c.serviceName := by
  intro h
  have h := congrArg String.toList h
  simp [HostAddress.workloadName, Cluster.serviceName] at h

theorem workloadName_ne_shard (a : HostAddress) (c : Cluster) (shard : Shard) :
    a.workloadName ≠ c.shardServiceName shard := by
  intro h
  have h := congrArg String.toList h
  simp [HostAddress.workloadName, Cluster.shardServiceName] at h

theorem configMapName_ne_common {a : HostAddress} (ha : a.installation = i.name) :
    a.configMapName ≠ i.commonConfigMapName := by
  intro h
  have h := congrArg String.toList h
  simp [HostAddress.configMapName, commonConfigMapName, ha] at h

theorem configMapName_ne_users {a : HostAddress} (ha : a.installation = i.name) :
    a.configMapName ≠ i.usersConfigMapName := by
  intro h
  have h := congrArg String.toList h
  simp [HostAddress.configMapName, usersConfigMapName, ha] at h

theorem mem_objectNames_hostService {host : Host} (h : host ∈ i.hosts) :
    host.address.workloadName ∈ i.objectNames .service :=
  List.mem_cons_of_mem _ (List.mem_append_right _ (List.mem_map_of_mem h))

theorem mem_objectNames_hostConfigMap {host : Host} (h : host ∈ i.hosts) :
    host.address.configMapName ∈ i.objectNames .configMap :=
  List.mem_cons_of_mem _ (List.mem_cons_of_mem _ (List.mem_map_of_mem h))

/-- A workload name that no host claims is no other Service's name either. -/
theorem workloadName_notMem_services {a : HostAddress}
    (h : a.workloadName ∉ i.objectNames .statefulSet) :
    a.workloadName ∉ i.objectNames .service := by
  intro hmem
  simp only [objectNames, clusterServices, List.mem_cons, List.mem_append, List.mem_flatMap] at hmem
  rcases hmem with hmem | ⟨c, -, hmem | hmem⟩ | hmem
  · exact workloadName_ne_serviceName a hmem
  · split at hmem
    · exact workloadName_ne_cluster a c (List.mem_singleton.1 hmem)
    · cases hmem
  · obtain ⟨shard, -, hshard⟩ := List.mem_map.1 hmem
    exact workloadName_ne_shard a c shard hshard.symm
  · exact h hmem

/-- The ConfigMap of a workload that no host claims is none of the installation's. -/
theorem configMapName_notMem_configMaps (placed : i.Placed) {a : HostAddress}
    (ha : a.installation = i.name) (h : a.workloadName ∉ i.objectNames .statefulSet) :
    a.configMapName ∉ i.objectNames .configMap := by
  intro hmem
  simp only [objectNames, List.mem_cons] at hmem
  rcases hmem with hmem | hmem | hmem
  · exact configMapName_ne_common ha hmem
  · exact configMapName_ne_users ha hmem
  · obtain ⟨host, hhost, heq⟩ := List.mem_map.1 hmem
    have hinst : host.address.installation = a.installation :=
      (placed.host host hhost).2.trans ha.symm
    exact h (List.mem_map.2 ⟨host, hhost, (HostAddress.workloadName_eq_iff hinst).2 heq⟩)

end Installation

end ShardOperator
