import ShardOperator.Proofs.Text.Pieces
import ShardOperator.Proofs.Topology.Alignment

namespace ShardOperator

namespace Cluster

theorem go_eq_none_iff {seen names : List String} :
    repeated?.go seen names = none ↔ names.Nodup ∧ ∀ name ∈ names, name ∉ seen := by
  induction names generalizing seen with
  | nil => exact iff_of_true rfl ⟨List.nodup_nil, fun name hname => absurd hname List.not_mem_nil⟩
  | cons name rest ih =>
    unfold repeated?.go
    by_cases hseen : name ∈ seen
    · rw [if_pos hseen]
      exact iff_of_false nofun fun h => h.2 name (List.mem_cons_self ..) hseen
    · rw [if_neg hseen, ih, List.nodup_cons, List.forall_mem_cons]
      simp only [List.mem_cons, not_or]
      constructor
      · rintro ⟨hnodup, hrest⟩
        exact ⟨⟨fun hmem => (hrest name hmem).1 rfl, hnodup⟩, hseen,
          fun other hother => (hrest other hother).2⟩
      · rintro ⟨⟨hname, hnodup⟩, -, hrest⟩
        refine ⟨hnodup, fun other hother => ⟨fun heq => ?_, hrest other hother⟩⟩
        exact hname (heq ▸ hother)

theorem repeated?_eq_none_iff {names : List String} : repeated? names = none ↔ names.Nodup := by
  unfold repeated?
  rw [go_eq_none_iff]
  exact and_iff_left fun name _ => List.not_mem_nil

/-- The names that are checked are used once. -/
theorem nodup_of_checkNames {c : Cluster} (h : c.checkNames = .ok ()) :
    (c.shards.map (·.name)).Nodup ∧ (c.replicas.map (·.name)).Nodup := by
  unfold checkNames at h
  dsimp only at h
  cases hshards : repeated? (c.shards.map (·.name)) with
  | some name =>
    rw [hshards] at h
    cases h
  | none =>
    cases hreplicas : repeated? (c.replicas.map (·.name)) with
    | some name =>
      rw [hshards, hreplicas] at h
      cases h
    | none => exact ⟨repeated?_eq_none_iff.1 hshards, repeated?_eq_none_iff.1 hreplicas⟩

/-- Hosts have the names of their shard and replica, and one of the two kinds of name is free of
dashes. -/
structure Named (c : Cluster) : Prop where
  place : ∀ {s r host}, c.host? s r = some host →
    host.address.cluster = c.name ∧
      ∃ shard replica, c.shards[s]? = some shard ∧ c.replicas[r]? = some replica ∧
        host.address.shard = shard.name ∧ host.address.replica = replica.name
  plain : (∀ shard ∈ c.shards, Dashless shard.name) ∨ ∀ replica ∈ c.replicas, Dashless replica.name

theorem named_ofSpec (i : Installation) (spec : ClusterSpec) (index : Nat)
    (defaults : HostDefaults) : (ofSpec i spec index defaults).Named := by
  refine ⟨fun {s r host} h => ?_, ?_⟩
  · obtain ⟨shard, replica, hshard, hreplica, haddress⟩ := address_ofSpec h
    rw [haddress, name_ofSpec]
    exact ⟨rfl, shard, replica, hshard, hreplica, rfl, rfl⟩
  · by_cases hby : spec.layout.ByShards
    · right
      intro replica hmem
      obtain ⟨r, hr⟩ := List.mem_iff_getElem?.1 hmem
      obtain ⟨-, rfl⟩ := replica_ofSpec.1 hr
      rw [replicaAt, if_pos hby]
      exact dashless_toString r
    · left
      intro shard hmem
      obtain ⟨s, hs⟩ := List.mem_iff_getElem?.1 hmem
      obtain ⟨-, rfl⟩ := shard_ofSpec.1 hs
      rw [shardAt, if_neg hby]
      exact dashless_toString s

theorem Named.of_mem {c : Cluster} (named : c.Named) {host : Host} (hhost : host ∈ c.hosts) :
    host.address.cluster = c.name ∧ (∃ shard ∈ c.shards, host.address.shard = shard.name) ∧
      ∃ replica ∈ c.replicas, host.address.replica = replica.name := by
  obtain ⟨s, r, hplace⟩ := mem_hosts_iff.1 hhost
  obtain ⟨hcluster, shard, replica, hs, hr, hshard, hreplica⟩ := named.place hplace
  exact ⟨hcluster, ⟨shard, List.mem_of_getElem? hs, hshard⟩,
    replica, List.mem_of_getElem? hr, hreplica⟩

theorem index_inj {α : Type} {name : α → String} {items : List α}
    (hnodup : (items.map name).Nodup) {m n : Nat} {a b : α} (ha : items[m]? = some a)
    (hb : items[n]? = some b) (h : name a = name b) : m = n := by
  obtain ⟨hm, -⟩ := List.getElem?_eq_some_iff.1 ha
  have hlength : m < (items.map name).length := by rwa [List.length_map]
  refine (List.getElem?_inj hlength hnodup).1 ?_
  rw [List.getElem?_map, List.getElem?_map, ha, hb, Option.map_some, Option.map_some, h]

/-- No two hosts of a cluster have both names in common. -/
theorem Named.host_inj {c : Cluster} (named : c.Named) (checked : c.checkNames = .ok ())
    {a b : Host} (ha : a ∈ c.hosts) (hb : b ∈ c.hosts)
    (hshard : a.address.shard = b.address.shard)
    (hreplica : a.address.replica = b.address.replica) : a = b := by
  obtain ⟨hshards, hreplicas⟩ := nodup_of_checkNames checked
  obtain ⟨s, r, ha⟩ := mem_hosts_iff.1 ha
  obtain ⟨t, q, hb⟩ := mem_hosts_iff.1 hb
  obtain ⟨-, shard, replica, hs, hr, has, har⟩ := named.place ha
  obtain ⟨-, shard', replica', ht, hq, hbt, hbq⟩ := named.place hb
  have hst : s = t := index_inj hshards hs ht (by rw [← has, ← hbt, hshard])
  have hrq : r = q := index_inj hreplicas hr hq (by rw [← har, ← hbq, hreplica])
  subst hst hrq
  exact Option.some.inj (ha.symm.trans hb)

end Cluster

namespace Installation

/-- The clusters have a name each, and each cluster has passed the check of its names. -/
structure Named (i : Installation) : Prop where
  clusters : (i.clusters.map (·.name)).Nodup
  cluster : ∀ c ∈ i.clusters, c.Named
  checked : ∀ c ∈ i.clusters, c.checkNames = .ok ()

end Installation

namespace InstallationResource

theorem addClusters_named {defaults : HostDefaults} {specs : List ClusterSpec}
    {i j : Installation} (hi : i.Named) (h : addClusters defaults i specs = .ok j) : j.Named := by
  induction specs generalizing i with
  | nil =>
    obtain rfl : i = j := Except.ok.inj h
    exact hi
  | cons spec rest ih =>
    obtain ⟨-, hnew, hcheck, h⟩ := addClusters_cons h
    refine ih ⟨?_, fun c hc => ?_, fun c hc => ?_⟩ h
    · have hfresh : spec.name ∉ i.clusters.map (·.name) := by
        simpa using hnew
      rw [List.map_append, List.map_singleton, Cluster.name_ofSpec, List.nodup_append]
      refine ⟨hi.clusters, List.pairwise_singleton .., fun a ha b hb hab => ?_⟩
      rw [hab, List.mem_singleton.1 hb] at ha
      exact hfresh ha
    · rcases List.mem_append.1 hc with hc | hc
      · exact hi.cluster c hc
      · obtain rfl := List.mem_singleton.1 hc
        exact Cluster.named_ofSpec i spec i.clusters.length defaults
    · rcases List.mem_append.1 hc with hc | hc
      · exact hi.checked c hc
      · obtain rfl := List.mem_singleton.1 hc
        exact hcheck

theorem named_normalize {chi : InstallationResource} {defaults : HostDefaults} {i : Installation}
    (h : chi.normalize defaults = .ok i) : i.Named := by
  unfold normalize at h
  split at h
  · cases h
  · next ns _ =>
    have start : (chi.frame ns).Named :=
      ⟨List.nodup_nil, fun c hc => absurd hc List.not_mem_nil,
        fun c hc => absurd hc List.not_mem_nil⟩
    exact addClusters_named start h

end InstallationResource

end ShardOperator
