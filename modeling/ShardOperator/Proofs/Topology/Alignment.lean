import ShardOperator.Proofs.Topology.Placement
import ShardOperator.Reconcile.Observation

namespace ShardOperator

namespace HostId

/-- The order shard by shard. -/
def BeforeByShards (a b : HostId) : Prop :=
  a.shard < b.shard ∨ a.shard = b.shard ∧ a.replica < b.replica

theorem BeforeByShards.ne {a b : HostId} (h : a.BeforeByShards b) : a ≠ b := by
  rintro rfl
  rcases h with h | ⟨-, h⟩
  · exact Nat.lt_irrefl a.shard h
  · exact Nat.lt_irrefl a.replica h

end HostId

namespace Cluster

variable {c : Cluster}

/-- Every host has its place for an id, the shards come in the order of the rows, and there is a
host. -/
structure Aligned (c : Cluster) : Prop where
  place : ∀ {s r host}, c.host? s r = some host → host.id = ⟨c.index, s, r⟩
  shards : c.shards.map Shard.index = List.range c.rows.length
  inhabited : (c.host? 0 0).isSome = true

theorem mem_shardHosts_iff {s : Nat} {host : Host} :
    host ∈ c.shardHosts s ↔ ∃ r, c.host? s r = some host := by
  simp only [shardHosts, List.mem_filterMap, id, exists_eq_right, host?_eq_some]
  cases c.rows[s]? with
  | none => simp
  | some row => simp [List.mem_iff_getElem?]

/-- Every host has its place for an id. -/
def InPlace (c : Cluster) : Prop := ∀ {s r : Nat} {host : Host}, c.host? s r = some host →
  host.id = ⟨c.index, s, r⟩

/-- Rows differ in the shard, and the cells of a row in the replica. -/
theorem InPlace.ascending_hosts (h : c.InPlace) :
    c.hosts.Pairwise fun a b => a.id.BeforeByShards b.id := by
  have place {i j : Nat} {host : Host} (hi : i < c.rows.length) (hj : j < c.rows[i].length)
      (hhost : c.rows[i][j] = some host) : host.id = ⟨c.index, i, j⟩ := by
    refine h (host?_eq_some.2 ⟨c.rows[i], List.getElem?_eq_getElem hi, ?_⟩)
    rw [List.getElem?_eq_getElem hj, hhost]
  refine List.pairwise_flatMap.2 ⟨fun row hrow => ?_, ?_⟩
  · obtain ⟨i, hi, rfl⟩ := List.getElem_of_mem hrow
    refine List.pairwise_filterMap.2 (List.pairwise_iff_getElem.2 fun j k hj hk hlt => ?_)
    intro a ha b hb
    rw [place hi hj ha, place hi hk hb]
    exact .inr ⟨rfl, hlt⟩
  · refine List.pairwise_iff_getElem.2 fun i j hi hj hlt a ha b hb => ?_
    obtain ⟨cell, hcell, hsome⟩ := List.mem_filterMap.1 ha
    obtain ⟨other, hother, hsome'⟩ := List.mem_filterMap.1 hb
    obtain ⟨k, hk, rfl⟩ := List.getElem_of_mem hcell
    obtain ⟨l, hl, rfl⟩ := List.getElem_of_mem hother
    rw [place hi hk hsome, place hj hl hsome']
    exact .inl hlt

namespace Aligned

/-- A shard stands at its index. -/
theorem getElem?_index (h : c.Aligned) {shard : Shard} (hshard : shard ∈ c.shards) :
    c.shards[shard.index]? = some shard := by
  obtain ⟨n, hn⟩ := List.mem_iff_getElem?.1 hshard
  have hindex : (c.shards.map Shard.index)[n]? = some shard.index := by
    rw [List.getElem?_map, hn, Option.map_some]
  rw [h.shards] at hindex
  obtain ⟨hlt, hrange⟩ := List.getElem?_eq_some_iff.1 hindex
  rw [List.getElem_range] at hrange
  rw [← hrange, hn]

theorem cluster_eq (h : c.Aligned) {host : Host} (hhost : host ∈ c.hosts) :
    host.id.cluster = c.index := by
  obtain ⟨s, r, hplace⟩ := mem_hosts_iff.1 hhost
  rw [h.place hplace]

/-- No two hosts of a cluster have an id in common. -/
theorem pairwise_hosts (h : c.Aligned) : c.hosts.Pairwise fun a b => a.id ≠ b.id :=
  (InPlace.ascending_hosts h.place).imp HostId.BeforeByShards.ne

/-- The hosts of the shards are the hosts of the cluster. -/
theorem flatMap_shardHosts (h : c.Aligned) :
    c.shards.flatMap (fun shard => c.shardHosts shard.index) = c.hosts := by
  have hrows : (List.range c.rows.length).map (fun s => c.rows[s]?.getD []) = c.rows := by
    refine List.ext_getElem (by simp) fun s hs hrow => ?_
    simp only [List.getElem_map, List.getElem_range, List.getElem?_eq_getElem hrow,
      Option.getD_some]
  calc c.shards.flatMap (fun shard => c.shardHosts shard.index)
      = (c.shards.map Shard.index).flatMap c.shardHosts := (List.flatMap_map ..).symm
    _ = (List.range c.rows.length).flatMap c.shardHosts := by rw [h.shards]
    _ = ((List.range c.rows.length).map fun s => c.rows[s]?.getD []).flatMap
        (·.filterMap id) := by rw [List.flatMap_map]; rfl
    _ = c.hosts := by rw [hrows, hosts]

theorem hosts_ne_nil (h : c.Aligned) : c.hosts ≠ [] := by
  obtain ⟨host, hhost⟩ := Option.isSome_iff_exists.1 h.inhabited
  exact List.ne_nil_of_mem (mem_hosts_iff.2 ⟨0, 0, hhost⟩)

theorem mapHosts (h : c.Aligned) {f : Host → Host} (hf : ∀ host, (f host).id = host.id) :
    (c.mapHosts f).Aligned := by
  have hcell (s r : Nat) : (c.mapHosts f).host? s r = (c.host? s r).map f := by
    simp only [Cluster.mapHosts, host?, List.getElem?_map]
    cases c.rows[s]? with
    | none => rfl
    | some row =>
      simp only [Option.map_some, Option.bind_some, List.getElem?_map]
      rcases row[r]? with _ | _ | _ <;> rfl
  constructor
  · intro s r host hhost
    rw [hcell] at hhost
    obtain ⟨before, hbefore, rfl⟩ := Option.map_eq_some_iff.1 hhost
    rw [hf]
    exact h.place hbefore
  · rw [show (c.mapHosts f).rows.length = c.rows.length from List.length_map ..]
    exact h.shards
  · rw [hcell, Option.isSome_map]
    exact h.inhabited

end Aligned

theorem aligned_ofSpec (i : Installation) (spec : ClusterSpec) (index : Nat)
    (defaults : HostDefaults) : (ofSpec i spec index defaults).Aligned := by
  have laid := laid_ofSpec i spec index defaults
  have hshard {s : Nat} (hs : s < (ofSpec i spec index defaults).shards.length) :=
    shard_ofSpec.1 (List.getElem?_eq_getElem hs)
  have hlength : (ofSpec i spec index defaults).shards.length =
      (ofSpec i spec index defaults).rows.length := by
    refine Nat.le_antisymm (Nat.le_of_not_lt fun hlt => ?_) laid.height
    -- The shard behind the last row has a host, which has to stand in a row.
    obtain ⟨⟨r, hcovers⟩, -⟩ := hshard hlt
    obtain ⟨row, hrow, -⟩ := host?_eq_some.1 (host?_ofSpec.2 ⟨hcovers, rfl⟩)
    exact Nat.lt_irrefl _ (List.getElem?_eq_some_iff.1 hrow).1
  refine ⟨fun {s r host} hhost => ?_, List.ext_getElem ?_ fun s hs _ => ?_, ?_⟩
  · rw [(host?_ofSpec.1 hhost).2, id_declaredHost, index_ofSpec]
  · rw [List.length_map, List.length_range, hlength]
  · rw [List.length_map] at hs
    rw [List.getElem_map, List.getElem_range, (hshard hs).2, index_shardAt]
  · exact isSome_host?_ofSpec.2 spec.layout.covers_zero

end Cluster

namespace Installation

variable {i : Installation}

/-- Every cluster has its place for an index, and every host has its place for an id. -/
structure Aligned (i : Installation) : Prop where
  index : ∀ {n : Nat} {c : Cluster}, i.clusters[n]? = some c → c.index = n
  cluster : ∀ c ∈ i.clusters, c.Aligned

namespace Aligned

/-- A host is found by its id. -/
theorem host?_id (h : i.Aligned) {host : Host} (hhost : host ∈ i.hosts) :
    i.host? host.id = some host := by
  obtain ⟨c, hc, hin⟩ := List.mem_flatMap.1 hhost
  obtain ⟨n, hn⟩ := List.mem_iff_getElem?.1 hc
  obtain ⟨s, r, hplace⟩ := Cluster.mem_hosts_iff.1 hin
  rw [(h.cluster c hc).place hplace, h.index hn, host?, hn]
  exact hplace

theorem nodup_ids (h : i.Aligned) : (i.hosts.map Host.id).Nodup := by
  refine List.pairwise_map.2
    (List.pairwise_flatMap.2 ⟨fun c hc => (h.cluster c hc).pairwise_hosts, ?_⟩)
  refine List.pairwise_iff_getElem.2 fun m n hm hn hlt a ha b hb heq => ?_
  have hcluster := congrArg HostId.cluster heq
  rw [(h.cluster _ (List.getElem_mem hm)).cluster_eq ha,
    (h.cluster _ (List.getElem_mem hn)).cluster_eq hb, h.index (List.getElem?_eq_getElem hm),
    h.index (List.getElem?_eq_getElem hn)] at hcluster
  omega

/-- There are no more clusters than hosts. -/
theorem length_clusters_le (h : i.Aligned) : i.clusters.length ≤ i.hosts.length := by
  have hclusters := h.cluster
  unfold hosts
  revert hclusters
  induction i.clusters with
  | nil => exact fun _ => Nat.le_refl 0
  | cons c rest ih =>
    intro hclusters
    have hfirst := List.length_pos_iff.2 (hclusters c (List.mem_cons_self ..)).hosts_ne_nil
    have hrest := ih fun d hd => hclusters d (List.mem_cons_of_mem _ hd)
    rw [List.flatMap_cons, List.length_append, List.length_cons]
    omega

theorem mapHosts (h : i.Aligned) {f : Host → Host} (hf : ∀ host, (f host).id = host.id) :
    (i.mapHosts f).Aligned := by
  constructor
  · intro n c hc
    rw [Installation.mapHosts, List.getElem?_map] at hc
    obtain ⟨before, hbefore, rfl⟩ := Option.map_eq_some_iff.1 hc
    exact (h.index hbefore : before.index = n)
  · intro c hc
    obtain ⟨before, hbefore, rfl⟩ := List.mem_map.1 hc
    exact (h.cluster before hbefore).mapHosts hf

/-- What is observed moves no host. -/
theorem observed (h : i.Aligned) (existing : List (Resource .statefulSet)) :
    (Reconcile.observed i existing).Aligned :=
  have hflagged := h.mapHosts (f := fun host =>
    { host with flags := Reconcile.observedFlags existing host }) fun _ => rfl
  ⟨hflagged.index, hflagged.cluster⟩

end Aligned

/-- A workload without a place has no host's id, if no cluster has the index that none should
have. -/
theorem host?_orphan (hfits : i.clusters.length ≤ HostId.noCluster) (n : Nat) :
    i.host? (.orphan n) = none := by
  have hnone : i.clusters[(HostId.orphan n).cluster]? = none := List.getElem?_eq_none hfits
  rw [host?, hnone]
  rfl

end Installation

namespace InstallationResource

theorem addClusters_aligned {defaults : HostDefaults} {specs : List ClusterSpec}
    {i j : Installation} (hi : i.Aligned) (h : addClusters defaults i specs = .ok j) :
    j.Aligned ∧ j.clusters.length = i.clusters.length + specs.length := by
  induction specs generalizing i with
  | nil =>
    obtain rfl : i = j := Except.ok.inj h
    exact ⟨hi, rfl⟩
  | cons spec rest ih =>
    obtain ⟨-, -, -, h⟩ := addClusters_cons h
    have aligned : Installation.Aligned { i with
        clusters := i.clusters ++ [Cluster.ofSpec i spec i.clusters.length defaults] } := by
      constructor
      · intro n c hc
        rw [List.getElem?_append] at hc
        split at hc
        · exact hi.index hc
        · next hge =>
          obtain ⟨hn, rfl⟩ := List.getElem?_eq_some_iff.1 hc
          rw [List.length_singleton] at hn
          simp only [show n - i.clusters.length = 0 by omega, List.getElem_cons_zero,
            Cluster.index_ofSpec]
          omega
      · intro c hc
        rcases List.mem_append.1 hc with hc | hc
        · exact hi.cluster c hc
        · obtain rfl := List.mem_singleton.1 hc
          exact Cluster.aligned_ofSpec i spec i.clusters.length defaults
    obtain ⟨hj, hlength⟩ := ih aligned h
    refine ⟨hj, ?_⟩
    rw [hlength]
    simp only [List.length_append, List.length_cons, List.length_nil]
    omega

/-- In what a resource is normalized to, clusters and hosts have their places for ids, and there is
a cluster for each that is declared. -/
theorem aligned_normalize {chi : InstallationResource} {defaults : HostDefaults} {i : Installation}
    (h : chi.normalize defaults = .ok i) :
    i.Aligned ∧ i.clusters.length = chi.spec.configuration.clusters.length := by
  unfold normalize at h
  split at h
  · cases h
  · next ns _ =>
    have start : (chi.frame ns).Aligned :=
      ⟨fun hc => by simp [frame] at hc, fun c hc => absurd hc List.not_mem_nil⟩
    obtain ⟨aligned, hlength⟩ := addClusters_aligned start h
    rw [hlength]
    exact ⟨aligned, Nat.zero_add _⟩

end InstallationResource

end ShardOperator
