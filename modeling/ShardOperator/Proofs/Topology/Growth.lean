import ShardOperator.Proofs.Topology.Matrix

namespace ShardOperator

/-- The same layout, but for counts that may be larger. A count that is left out counts as zero. -/
structure LayoutSpec.GrowsTo (l grown : LayoutSpec) : Prop where
  listed : grown =
    { l with shardsCount := grown.shardsCount, replicasCount := grown.replicasCount }
  shardsCount : given l.shardsCount ≤ given grown.shardsCount
  replicasCount : given l.replicasCount ≤ given grown.replicasCount

structure ClusterSpec.GrowsTo (spec grown : ClusterSpec) : Prop where
  declared : grown = { spec with layout := grown.layout }
  layout : spec.layout.GrowsTo grown.layout

/-- The same installation, but for clusters that may grow, and others that may follow them. What the
platform counts of its changes may differ too. -/
structure InstallationResource.GrowsTo (chi grown : InstallationResource) : Prop where
  ns : grown.metadata.ns = chi.metadata.ns
  name : grown.anyName = chi.anyName
  uid : grown.metadata.uid = chi.metadata.uid
  spec : grown.spec = { chi.spec with
    configuration := { chi.spec.configuration with
      clusters := grown.spec.configuration.clusters } }
  clusters : ∀ {n : Nat} {spec : ClusterSpec}, chi.spec.configuration.clusters[n]? = some spec →
    ∃ larger, grown.spec.configuration.clusters[n]? = some larger ∧ spec.GrowsTo larger

namespace LayoutSpec.GrowsTo

variable {l grown : LayoutSpec}

theorem shards (grows : l.GrowsTo grown) : grown.shards = l.shards := by
  rw [grows.listed]

theorem replicas (grows : l.GrowsTo grown) : grown.replicas = l.replicas := by
  rw [grows.listed]

theorem byShards_iff (grows : l.GrowsTo grown) : grown.ByShards ↔ l.ByShards := by
  unfold ByShards
  rw [grows.shards, grows.replicas]

/-- A place that a layout has a host at keeps it. -/
theorem covers (grows : l.GrowsTo grown) {s r : Nat} (h : l.Covers s r) : grown.Covers s r := by
  have hshards := grows.shardsCount
  have hreplicas := grows.replicasCount
  simp only [Covers, grows.byShards_iff] at h ⊢
  by_cases hby : l.ByShards
  · simp only [if_pos hby, shardLines, grows.shards] at h ⊢
    omega
  · simp only [if_neg hby, replicaLines, grows.replicas] at h ⊢
    omega

end LayoutSpec.GrowsTo

/-- Counts are not read where a host is made: what is declared of it, and of the levels above it,
is found by its position. -/
theorem Cluster.declaredHost_of_growsTo {i j : Installation} {spec grown : ClusterSpec}
    (grows : spec.GrowsTo grown) (hframe : unlaid j spec = unlaid i spec) (index : Nat)
    (defaults : HostDefaults) (s r : Nat) :
    declaredHost j grown index defaults s r = declaredHost i spec index defaults s r := by
  have hunlaid : unlaid j grown index = unlaid i spec index := by
    rw [← hframe, grows.declared]
    rfl
  unfold declaredHost hostByShards hostByReplicas
  simp only [grows.layout.byShards_iff, grows.layout.shards, grows.layout.replicas, hunlaid]

section Normalized

variable {chi grown : InstallationResource} {defaults : HostDefaults} {i j : Installation}

/-- Of two resources one of which grows to the other, the installations differ in their clusters
and their generation alone. -/
theorem InstallationResource.GrowsTo.frame_eq (grows : chi.GrowsTo grown)
    (h : chi.normalize defaults = .ok i) (h' : grown.normalize defaults = .ok j) :
    j = { i with generation := j.generation, clusters := j.clusters } := by
  obtain ⟨-, place, hplace, hi⟩ := normalize_spec h
  obtain ⟨-, place', hplace', hj⟩ := normalize_spec h'
  rw [grows.ns, hplace] at hplace'
  obtain rfl := Option.some.inj hplace'
  have hspec := grows.spec
  generalize grown.spec.configuration.clusters = clusters at hspec
  have hgrown : grown.frame place = { chi.frame place with
      generation := grown.metadata.generation } := by
    unfold frame
    rw [grows.name, grows.uid, hspec]
  rw [hi, hj, hgrown]

/-- Where an installation grows, its hosts stay as they are. -/
theorem mem_hosts_of_growsTo (grows : chi.GrowsTo grown) (h : chi.normalize defaults = .ok i)
    (h' : grown.normalize defaults = .ok j) {host : Host} (hhost : host ∈ i.hosts) :
    host ∈ j.hosts := by
  obtain ⟨spec, hspec, -, hplace⟩ := cluster_of_mem_hosts h hhost
  obtain ⟨larger, hlarger, hgrows⟩ := grows.clusters hspec
  obtain ⟨hcovers, hdeclared⟩ := Cluster.host?_ofSpec.1 hplace
  have hframe : Cluster.unlaid j spec = Cluster.unlaid i spec := by
    rw [grows.frame_eq h h']
    rfl
  have hkept : (Cluster.ofSpec j larger host.id.cluster defaults).host?
      host.id.shard host.id.replica = some host := by
    refine Cluster.host?_ofSpec.2 ⟨hgrows.layout.covers hcovers, ?_⟩
    rw [Cluster.declaredHost_of_growsTo hgrows hframe]
    exact hdeclared
  have hcluster : j.clusters[host.id.cluster]? =
      some (Cluster.ofSpec j larger host.id.cluster defaults) := by
    rw [InstallationResource.clusters_normalize h', hlarger, Option.map_some]
  exact List.mem_flatMap.2
    ⟨_, List.mem_of_getElem? hcluster, Cluster.mem_hosts_iff.2 ⟨_, _, hkept⟩⟩

end Normalized

end ShardOperator
