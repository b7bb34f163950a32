import Mathlib.Algebra.GroupWithZero.Nat
import Mathlib.Data.List.Nodup
import ShardOperator.Proofs.Topology.Naming

namespace ShardOperator

namespace Extent

/-- The places, line by line. -/
def places (e : Extent) : List (Nat × Nat) :=
  (List.range e.lines).flatMap fun line => (List.range (e.length line)).map fun n => (line, n)

/-- The lengths of the lines together. -/
def total (e : Extent) : Nat := ((List.range e.lines).map e.length).sum

theorem mem_places {e : Extent} {line n : Nat} :
    (line, n) ∈ e.places ↔ line < e.lines ∧ n < e.length line := by
  simp only [places, List.mem_flatMap, List.mem_range, List.mem_map, Prod.mk.injEq]
  constructor
  · rintro ⟨_, hline, _, hn, rfl, rfl⟩
    exact ⟨hline, hn⟩
  · rintro ⟨hline, hn⟩
    exact ⟨line, hline, n, hn, rfl, rfl⟩

theorem nodup_places (e : Extent) : e.places.Nodup := by
  refine List.nodup_flatMap.2 ⟨fun line _ => ?_, ?_⟩
  · refine List.nodup_range.map fun m n heq => ?_
    exact (Prod.mk.inj heq).2
  · refine List.nodup_range.imp fun {a b} hne place ha hb => ?_
    obtain ⟨m, -, rfl⟩ := List.mem_map.1 ha
    obtain ⟨n, -, heq⟩ := List.mem_map.1 hb
    exact hne (Prod.mk.inj heq).1.symm

theorem length_places (e : Extent) : e.places.length = e.total := by
  simp only [places, total, List.length_flatMap, List.length_map, List.length_range]

end Extent

namespace Cluster

variable {c : Cluster} {l : LayoutSpec} {defaults : HostDefaults}

theorem Aligned.exists_host_iff (aligned : c.Aligned) {s r : Nat} :
    (∃ host ∈ c.hosts, host.id.shard = s ∧ host.id.replica = r) ↔
      (c.host? s r).isSome = true := by
  rw [Option.isSome_iff_exists]
  constructor
  · rintro ⟨host, hhost, rfl, rfl⟩
    obtain ⟨s, r, hplace⟩ := mem_hosts_iff.1 hhost
    rw [aligned.place hplace]
    exact ⟨host, hplace⟩
  · rintro ⟨host, hplace⟩
    have hid := aligned.place hplace
    exact ⟨host, mem_hosts_iff.2 ⟨s, r, hplace⟩, by rw [hid], by rw [hid]⟩

/-- Where the ids of the hosts are told by their places, there are as many hosts as places. -/
theorem Aligned.length_hosts_of_places (aligned : c.Aligned) {e : Extent}
    (place : HostId → Nat × Nat)
    (inj : ∀ {a b : HostId}, a.cluster = b.cluster → place a = place b → a = b)
    (covers : ∀ p, (∃ host ∈ c.hosts, place host.id = p) ↔ p ∈ e.places) :
    c.hosts.length = e.total := by
  have nodup : (c.hosts.map fun host => place host.id).Nodup := by
    refine List.pairwise_map.2 (aligned.pairwise_hosts.imp_of_mem fun ha hb hne heq => hne ?_)
    apply inj _ heq
    rw [aligned.cluster_eq ha, aligned.cluster_eq hb]
  have perm : (c.hosts.map fun host => place host.id).Perm e.places := by
    apply (List.perm_ext_iff_of_nodup nodup e.nodup_places).2
    intro p
    rw [List.mem_map]
    exact covers p
  rw [← e.length_places, ← perm.length_eq, List.length_map]

/-- A cluster has a host for each of the places that its layout covers, and none besides. -/
theorem Aligned.length_hosts (aligned : c.Aligned)
    (covers : ∀ s r, (c.host? s r).isSome = true ↔ l.Covers s r) :
    c.hosts.length = l.extent.total := by
  unfold LayoutSpec.Covers at covers
  unfold LayoutSpec.extent
  by_cases h : l.ByShards
  · simp only [if_pos h] at covers ⊢
    apply aligned.length_hosts_of_places fun id => (id.shard, id.replica)
    · rintro ⟨_, _, _⟩ ⟨_, _, _⟩ rfl heq
      cases heq
      rfl
    · rintro ⟨s, r⟩
      rw [Extent.mem_places, ← covers, ← aligned.exists_host_iff]
      simp only [Prod.mk.injEq]
  · simp only [if_neg h] at covers ⊢
    apply aligned.length_hosts_of_places fun id => (id.replica, id.shard)
    · rintro ⟨_, _, _⟩ ⟨_, _, _⟩ rfl heq
      cases heq
      rfl
    · rintro ⟨r, s⟩
      rw [Extent.mem_places, ← covers, ← aligned.exists_host_iff]
      simp only [Prod.mk.injEq, and_comm (a := _ = s)]

/-- The cluster has the shards, the replicas and the hosts that a layout declares, each in its
place. -/
structure LaidOut (c : Cluster) (l : LayoutSpec) : Prop where
  byShards : l.ByShards → c.shards.length = l.shardLines.lines ∧
    ∀ s r, (c.host? s r).isSome = true ↔ s < l.shardLines.lines ∧ r < l.shardLines.length s
  byReplicas : ¬l.ByShards → c.replicas.length = l.replicaLines.lines ∧
    ∀ s r, (c.host? s r).isSome = true ↔ r < l.replicaLines.lines ∧ s < l.replicaLines.length r
  shard : ∀ {s shard}, c.shards[s]? = some shard →
    shard.index = s ∧ ∃ r, (c.host? s r).isSome = true
  replica : ∀ {r replica}, c.replicas[r]? = some replica →
    replica.index = r ∧ ∃ s, (c.host? s r).isSome = true
  hostsCount : c.hostsCount = l.extent.total

theorem laidOut_ofSpec (i : Installation) (spec : ClusterSpec) (index : Nat)
    (defaults : HostDefaults) : (ofSpec i spec index defaults).LaidOut spec.layout := by
  have hcovers (s r : Nat) : ((ofSpec i spec index defaults).host? s r).isSome = true ↔
      spec.layout.Covers s r := isSome_host?_ofSpec
  refine ⟨fun h => ⟨?_, fun s r => ?_⟩, fun h => ⟨?_, fun s r => ?_⟩, fun {s shard} hshard => ?_,
    fun {r replica} hreplica => ?_, (aligned_ofSpec i spec index defaults).length_hosts hcovers⟩
  · rw [(laid_ofSpec_of_byShards h).shards_eq, List.length_map, List.length_range]
  · rw [hcovers, LayoutSpec.covers_iff_shardLines h]
  · rw [(laid_ofSpec_of_byReplicas h).replicas_eq, List.length_map, List.length_range]
  · rw [hcovers, LayoutSpec.covers_iff_replicaLines h]
  · obtain ⟨⟨r, hplace⟩, rfl⟩ := shard_ofSpec.1 hshard
    exact ⟨index_shardAt .., r, (hcovers s r).2 hplace⟩
  · obtain ⟨⟨s, hplace⟩, rfl⟩ := replica_ofSpec.1 hreplica
    exact ⟨index_replicaAt .., s, (hcovers s r).2 hplace⟩

end Cluster

namespace InstallationResource

/-- A cluster is added for each that is declared, in their order. -/
theorem clusters_addClusters {defaults : HostDefaults} {specs : List ClusterSpec}
    {i j : Installation} (h : addClusters defaults i specs = .ok j) :
    j = { i with clusters := i.clusters ++
      specs.mapIdx fun n spec => Cluster.ofSpec i spec (i.clusters.length + n) defaults } := by
  induction specs generalizing i with
  | nil =>
    obtain rfl : i = j := Except.ok.inj h
    rw [List.mapIdx_nil, List.append_nil]
  | cons spec rest ih =>
    obtain ⟨-, -, -, h⟩ := addClusters_cons h
    rw [ih h, List.mapIdx_cons, List.append_assoc, List.length_append, List.length_singleton]
    simp only [Nat.add_assoc, Nat.add_comm 1]
    rfl

/-- Normalization makes a cluster of each that is declared, in their order. -/
theorem clusters_normalize {chi : InstallationResource} {defaults : HostDefaults}
    {i : Installation} (h : chi.normalize defaults = .ok i) (n : Nat) :
    i.clusters[n]? = chi.spec.configuration.clusters[n]?.map fun spec =>
      Cluster.ofSpec i spec n defaults := by
  unfold normalize at h
  split at h
  · cases h
  · next ns _ =>
    rw [clusters_addClusters h]
    simp only [frame, List.nil_append, List.length_nil, Nat.zero_add, List.getElem?_mapIdx]
    rfl

end InstallationResource

/-- The host is found by its id, is one of the hosts once, and its address tells its cluster, shard
and replica by name and position. -/
structure Installation.InPlace (i : Installation) (host : Host) : Prop where
  found : i.host? host.id = some host
  once : i.hosts.count host = 1
  address : ∃ c shard replica, i.clusters[host.id.cluster]? = some c ∧
    c.shards[host.id.shard]? = some shard ∧ c.replicas[host.id.replica]? = some replica ∧
    c.ns = i.ns ∧ c.installation = i.name ∧ c.index = host.id.cluster ∧
    host.address = {
      ns := c.ns
      installation := c.installation
      cluster := c.name
      clusterIndex := c.index
      shard := shard.name
      shardIndex := shard.index
      replica := replica.name
      replicaIndex := replica.index
      host := host.name }

section Normalized

variable {chi : InstallationResource} {defaults : HostDefaults} {i : Installation}

theorem cluster_of_mem_hosts (h : chi.normalize defaults = .ok i) {host : Host}
    (hhost : host ∈ i.hosts) : ∃ spec,
      chi.spec.configuration.clusters[host.id.cluster]? = some spec ∧
      i.clusters[host.id.cluster]? = some (Cluster.ofSpec i spec host.id.cluster defaults) ∧
      (Cluster.ofSpec i spec host.id.cluster defaults).host? host.id.shard host.id.replica =
        some host := by
  obtain ⟨aligned, -⟩ := InstallationResource.aligned_normalize h
  have hfound := aligned.host?_id hhost
  rw [Installation.host?, InstallationResource.clusters_normalize h] at hfound
  cases hspec : chi.spec.configuration.clusters[host.id.cluster]? with
  | none =>
    rw [hspec] at hfound
    cases hfound
  | some spec =>
    rw [hspec] at hfound
    refine ⟨spec, rfl, ?_, hfound⟩
    rw [InstallationResource.clusters_normalize h, hspec, Option.map_some]

theorem inPlace_of_mem_hosts (h : chi.normalize defaults = .ok i) {host : Host}
    (hhost : host ∈ i.hosts) : i.InPlace host := by
  obtain ⟨aligned, -⟩ := InstallationResource.aligned_normalize h
  obtain ⟨spec, -, hcluster, hplace⟩ := cluster_of_mem_hosts h hhost
  have nodup : i.hosts.Nodup := List.Nodup.of_map _ aligned.nodup_ids
  refine ⟨aligned.host?_id hhost, List.count_eq_one_of_mem nodup hhost, ?_⟩
  obtain ⟨shard, replica, hshard, hreplica, haddress⟩ := Cluster.address_ofSpec hplace
  obtain ⟨hns, hname, -⟩ := Cluster.ofSpec_placed i spec host.id.cluster defaults
  have laid := Cluster.laidOut_ofSpec i spec host.id.cluster defaults
  refine ⟨_, shard, replica, hcluster, hshard, hreplica, hns, hname, Cluster.index_ofSpec .., ?_⟩
  rw [hns, hname, Cluster.name_ofSpec, Cluster.index_ofSpec, (laid.shard hshard).1,
    (laid.replica hreplica).1]
  exact haddress

/-- The hosts of an accepted installation are just those that its layouts declare. Every cluster has
the shards and replicas of its layout, and a host wherever one is declared; every host stands once
in its place, and tells it. -/
theorem matrix_as_declared (h : chi.normalize defaults = .ok i) :
    i.clusters.length = chi.spec.configuration.clusters.length ∧
    (∀ (n : Nat) (spec : ClusterSpec) (c : Cluster),
      chi.spec.configuration.clusters[n]? = some spec → i.clusters[n]? = some c →
        c.name = spec.name ∧ c.LaidOut spec.layout) ∧
    (∀ host ∈ i.hosts, i.InPlace host) ∧
    i.hostsCount = (chi.spec.configuration.clusters.map (·.layout.extent.total)).sum := by
  obtain ⟨-, hlength⟩ := InstallationResource.aligned_normalize h
  have hcounts : i.clusters.map (·.hosts.length) =
      chi.spec.configuration.clusters.map (·.layout.extent.total) := by
    apply List.ext_getElem?
    intro n
    rw [List.getElem?_map, List.getElem?_map, InstallationResource.clusters_normalize h,
      Option.map_map]
    congr 1
    funext spec
    exact (Cluster.laidOut_ofSpec i spec n defaults).hostsCount
  refine ⟨hlength, fun n spec c hspec hc => ?_, fun host => inPlace_of_mem_hosts h, ?_⟩
  · rw [InstallationResource.clusters_normalize h, hspec] at hc
    obtain rfl := Option.some.inj hc
    exact ⟨Cluster.name_ofSpec .., Cluster.laidOut_ofSpec ..⟩
  · rw [← hcounts, Installation.hostsCount, Installation.hosts, List.length_flatMap]

end Normalized

/-- Two clusters whose lines have different lengths: one of shards, and one of replicas. -/
def ragged : InstallationResource where
  metadata := { ns := some "ns", name := some "demo", uid := some "uid-1" }
  spec := { configuration := { clusters := [
    { name := "rows", layout := {
        shardsCount := some 3
        shards := [{ replicas := [{}, {}] }, { name := some "east" }] } },
    { name := "columns", layout := {
        shardsCount := some 1
        replicas := [{ name := some "left" }, { shardsCount := some 3 }] } }] } }

theorem exists_normalize_ragged : ∃ i, ragged.normalize {} = .ok i ∧
    i.host? ⟨1, 2, 0⟩ = none ∧
    i.hosts.map Host.id = [⟨0, 0, 0⟩, ⟨0, 0, 1⟩, ⟨0, 1, 0⟩, ⟨0, 2, 0⟩,
      ⟨1, 0, 0⟩, ⟨1, 0, 1⟩, ⟨1, 1, 1⟩, ⟨1, 2, 1⟩] :=
  ⟨_, rfl, rfl, rfl⟩

/-- The second replica of the second cluster reaches further than the first. -/
theorem matrix_as_declared_ragged :
    ∃ i host, ragged.normalize {} = .ok i ∧ i.hostsCount = 8 ∧ host ∈ i.hosts ∧
      host.id = ⟨1, 2, 1⟩ ∧ i.InPlace host ∧ i.host? ⟨1, 2, 0⟩ = none := by
  obtain ⟨i, hi, hnone, hids⟩ := exists_normalize_ragged
  obtain ⟨-, -, hplace, hcount⟩ := matrix_as_declared hi
  have hmem : (⟨1, 2, 1⟩ : HostId) ∈ i.hosts.map Host.id := by
    rw [hids]
    decide
  obtain ⟨host, hhost, hid⟩ := List.mem_map.1 hmem
  exact ⟨i, host, hi, hcount, hhost, hid, hplace host hhost, hnone⟩

end ShardOperator
