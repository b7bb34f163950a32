import Mathlib.Data.List.Nodup
import ShardOperator.Desired.Names
import ShardOperator.Proofs.Desired.ObjectNames
import ShardOperator.Proofs.Topology.Naming

namespace ShardOperator

namespace HostAddress

/-- What tells a host from the others of its cluster in the names of its objects. -/
def place (a : HostAddress) : String := a.shard ++ "-" ++ a.replica

theorem workloadName_eq_iff_joined {a b : HostAddress} (h : a.installation = b.installation) :
    a.workloadName = b.workloadName ↔
      a.cluster ++ "-" ++ a.place = b.cluster ++ "-" ++ b.place := by
  simp only [workloadName, place, h, ← String.toList_inj, String.toList_append, List.append_assoc,
    List.append_cancel_left_eq]

end HostAddress

namespace Cluster

theorem shardServiceName_eq_iff_joined {c d : Cluster} (h : c.installation = d.installation)
    (s t : Shard) :
    c.shardServiceName s = d.shardServiceName t ↔
      c.name ++ "-" ++ s.name = d.name ++ "-" ++ t.name := by
  simp only [shardServiceName, h, ← String.toList_inj, String.toList_append, List.append_assoc,
    List.append_cancel_left_eq]

/-- The names of a host's shard and replica can be read off its place, since the dash that joins
them is the first one or the last one. -/
theorem Named.place_inj {c : Cluster} (named : c.Named) (checked : c.checkNames = .ok ())
    {a b : Host} (ha : a ∈ c.hosts) (hb : b ∈ c.hosts) (h : a.address.place = b.address.place) :
    a = b := by
  obtain ⟨-, ⟨shard, hs, has⟩, replica, hr, har⟩ := named.of_mem ha
  obtain ⟨-, ⟨shard', ht, hbt⟩, replica', hq, hbq⟩ := named.of_mem hb
  have hboth : a.address.shard = b.address.shard ∧ a.address.replica = b.address.replica := by
    rcases named.plain with hplain | hplain
    · have hfirst : Dashless a.address.shard := has ▸ hplain shard hs
      have hsecond : Dashless b.address.shard := hbt ▸ hplain shard' ht
      exact (joined_inj_left hfirst hsecond).1 h
    · have hfirst : Dashless a.address.replica := har ▸ hplain replica hr
      have hsecond : Dashless b.address.replica := hbq ▸ hplain replica' hq
      exact (joined_inj_right hfirst hsecond).1 h
  exact named.host_inj checked ha hb hboth.1 hboth.2

end Cluster

namespace Installation

/-- No cluster's name goes on behind a dash where that of another ends. -/
def Separate (i : Installation) : Prop :=
  ∀ c ∈ i.clusters, ∀ d ∈ i.clusters, ∀ gap, d.name ≠ c.name ++ "-" ++ gap

/-- No shard and no replica has a dash in its name. -/
def Plain (i : Installation) : Prop :=
  ∀ c ∈ i.clusters, (∀ shard ∈ c.shards, Dashless shard.name) ∧
    ∀ replica ∈ c.replicas, Dashless replica.name

variable {i : Installation}

theorem Named.cluster_mem (named : i.Named) {host : Host} (hhost : host ∈ i.hosts) :
    ∃ c ∈ i.clusters, host ∈ c.hosts ∧ host.address.cluster = c.name := by
  obtain ⟨c, hc, hhost⟩ := List.mem_flatMap.1 hhost
  exact ⟨c, hc, hhost, ((named.cluster c hc).of_mem hhost).1⟩

/-- The names of two hosts' objects are the same only for one host or where the hosts clash. -/
theorem Named.joined_host_iff (named : i.Named) {a b : Host} (ha : a ∈ i.hosts)
    (hb : b ∈ i.hosts) :
    a.address.cluster ++ "-" ++ a.address.place = b.address.cluster ++ "-" ++ b.address.place ↔
      a = b ∨ Clash a.address.cluster a.address.place b.address.cluster b.address.place := by
  rw [joined_eq_iff]
  refine or_congr_left ⟨?_, ?_⟩
  · rintro ⟨hcluster, hplace⟩
    obtain ⟨c, hc, hac, hca⟩ := named.cluster_mem ha
    obtain ⟨d, hd, hbd, hdb⟩ := named.cluster_mem hb
    have hname : c.name = d.name := by rw [← hca, ← hdb, hcluster]
    obtain rfl := List.inj_on_of_nodup_map named.clusters hc hd hname
    exact (named.cluster c hc).place_inj (named.checked c hc) hac hbd hplace
  · rintro rfl
    exact ⟨rfl, rfl⟩

theorem Named.joined_shard_iff (named : i.Named) {c d : Cluster} (hc : c ∈ i.clusters)
    (hd : d ∈ i.clusters) {s t : Shard} (hs : s ∈ c.shards) (ht : t ∈ d.shards) :
    c.name ++ "-" ++ s.name = d.name ++ "-" ++ t.name ↔
      (c = d ∧ s = t) ∨ Clash c.name s.name d.name t.name := by
  rw [joined_eq_iff]
  refine or_congr_left ⟨?_, ?_⟩
  · rintro ⟨hcluster, hshard⟩
    obtain rfl := List.inj_on_of_nodup_map named.clusters hc hd hcluster
    obtain ⟨hshards, -⟩ := Cluster.nodup_of_checkNames (named.checked c hc)
    exact ⟨rfl, List.inj_on_of_nodup_map hshards hs ht hshard⟩
  · rintro ⟨rfl, rfl⟩
    exact ⟨rfl, rfl⟩

/-- The names of an installation's objects tell its hosts and its shards apart. -/
structure TellsApart (i : Installation) : Prop where
  workloads : (i.hosts.map (·.address.workloadName)).Nodup
  configMaps : (i.hosts.map (·.address.configMapName)).Nodup
  shardServices : (i.clusters.flatMap fun c => c.shards.map c.shardServiceName).Nodup

/-- Two hosts whose objects have names in common. -/
def HostsClash (a b : Host) : Prop :=
  Clash a.address.cluster a.address.place b.address.cluster b.address.place

section Accepted

variable (named : i.Named) (placed : i.Placed)

include named placed

theorem workloadName_eq_iff {a b : Host} (ha : a ∈ i.hosts) (hb : b ∈ i.hosts) :
    a.address.workloadName = b.address.workloadName ↔ a = b ∨ HostsClash a b := by
  have hinstallation : a.address.installation = b.address.installation := by
    rw [(placed.host a ha).2, (placed.host b hb).2]
  rw [HostAddress.workloadName_eq_iff_joined hinstallation]
  exact named.joined_host_iff ha hb

theorem configMapName_eq_iff {a b : Host} (ha : a ∈ i.hosts) (hb : b ∈ i.hosts) :
    a.address.configMapName = b.address.configMapName ↔ a = b ∨ HostsClash a b := by
  have hinstallation : a.address.installation = b.address.installation := by
    rw [(placed.host a ha).2, (placed.host b hb).2]
  rw [← HostAddress.workloadName_eq_iff hinstallation]
  exact workloadName_eq_iff named placed ha hb

theorem fqdn_eq_iff {a b : Host} (ha : a ∈ i.hosts) (hb : b ∈ i.hosts) :
    a.address.fqdn = b.address.fqdn ↔ a = b ∨ HostsClash a b := by
  have hns : a.address.ns = b.address.ns := by rw [(placed.host a ha).1, (placed.host b hb).1]
  rw [← workloadName_eq_iff named placed ha hb]
  simp only [HostAddress.fqdn, hns, ← String.toList_inj, String.toList_append,
    List.append_cancel_right_eq]

theorem shardServiceName_eq_iff {c d : Cluster} (hc : c ∈ i.clusters) (hd : d ∈ i.clusters)
    {s t : Shard} (hs : s ∈ c.shards) (ht : t ∈ d.shards) :
    c.shardServiceName s = d.shardServiceName t ↔
      (c = d ∧ s = t) ∨ Clash c.name s.name d.name t.name := by
  have hinstallation : c.installation = d.installation := by
    rw [(placed.cluster c hc).2, (placed.cluster d hd).2]
  rw [Cluster.shardServiceName_eq_iff_joined hinstallation]
  exact named.joined_shard_iff hc hd hs ht

/-- Where nothing clashes the names tell everything apart. -/
theorem tellsApart_of_clash (hhosts : i.hosts.Nodup)
    (hhost : ∀ a ∈ i.hosts, ∀ b ∈ i.hosts, ¬HostsClash a b)
    (hshard : ∀ c ∈ i.clusters, ∀ s ∈ c.shards, ∀ d ∈ i.clusters, ∀ t ∈ d.shards,
      ¬Clash c.name s.name d.name t.name) : i.TellsApart := by
  constructor
  · refine hhosts.map_on fun a ha b hb heq => ?_
    exact ((workloadName_eq_iff named placed ha hb).1 heq).resolve_right (hhost a ha b hb)
  · refine hhosts.map_on fun a ha b hb heq => ?_
    exact ((configMapName_eq_iff named placed ha hb).1 heq).resolve_right (hhost a ha b hb)
  · have hclusters : i.clusters.Nodup := List.Nodup.of_map _ named.clusters
    refine List.nodup_flatMap.2 ⟨fun c hc => ?_, ?_⟩
    · have hnodup := (Cluster.nodup_of_checkNames (named.checked c hc)).1
      refine (List.Nodup.of_map _ hnodup).map_on fun s hs t ht heq => ?_
      exact (((shardServiceName_eq_iff named placed hc hc hs ht).1 heq).resolve_right
        (hshard c hc s hs c hc t ht)).2
    · refine hclusters.imp_of_mem fun {c d} hc hd hne name hname hname' => ?_
      obtain ⟨s, hs, rfl⟩ := List.mem_map.1 hname
      obtain ⟨t, ht, heq⟩ := List.mem_map.1 hname'
      exact hne (((shardServiceName_eq_iff named placed hc hd hs ht).1 heq.symm).resolve_right
        (hshard c hc s hs d hd t ht)).1

end Accepted

/-- A clash takes a cluster name that goes on where another ends, behind a dash. -/
theorem Separate.not_clash (separate : i.Separate) {c d : Cluster} (hc : c ∈ i.clusters)
    (hd : d ∈ i.clusters) (rest otherRest : String) : ¬Clash c.name rest d.name otherRest := by
  rintro (⟨gap, hname, -⟩ | ⟨gap, hname, -⟩)
  · exact separate c hc d hd gap hname
  · exact separate d hd c hc gap hname

theorem Plain.not_clash (plain : i.Plain) {c d : Cluster} (hc : c ∈ i.clusters)
    (hd : d ∈ i.clusters) {s t : Shard} (hs : s ∈ c.shards) (ht : t ∈ d.shards) :
    ¬Clash c.name s.name d.name t.name := by
  rintro (h | h)
  · exact not_overlap_of_dashless ((plain c hc).1 s hs) h
  · exact not_overlap_of_dashless ((plain d hd).1 t ht) h

theorem Plain.not_hostsClash (plain : i.Plain) (named : i.Named) {a b : Host}
    (ha : a ∈ i.hosts) (hb : b ∈ i.hosts) : ¬HostsClash a b := by
  have hplain {host : Host} (hhost : host ∈ i.hosts) :
      Dashless host.address.shard ∧ Dashless host.address.replica := by
    obtain ⟨c, hc, hmem, -⟩ := named.cluster_mem hhost
    obtain ⟨-, ⟨shard, hs, hshard⟩, replica, hr, hreplica⟩ := (named.cluster c hc).of_mem hmem
    rw [hshard, hreplica]
    exact ⟨(plain c hc).1 shard hs, (plain c hc).2 replica hr⟩
  rintro (h | h)
  · exact not_overlap_joined (hplain ha).1 (hplain ha).2 _ _ _ _ h
  · exact not_overlap_joined (hplain hb).1 (hplain hb).2 _ _ _ _ h

end Installation

/-- Which objects of an accepted installation have names in common. Two hosts share the names of
their workloads, ConfigMaps and servers when they clash and only then, and so do two shards the name
of their Service. Within a cluster nothing clashes. Nothing does at all where no cluster's name goes
on behind another's, or where shards and replicas have names without dashes. -/
theorem names_shared_iff {chi : InstallationResource} {defaults : HostDefaults} {i : Installation}
    (h : chi.normalize defaults = .ok i) :
    (i.hosts.map Host.id).Nodup ∧
    (∀ a ∈ i.hosts, ∀ b ∈ i.hosts,
      (a.address.workloadName = b.address.workloadName ↔ a = b ∨ Installation.HostsClash a b) ∧
      (a.address.configMapName = b.address.configMapName ↔ a = b ∨ Installation.HostsClash a b) ∧
      (a.address.fqdn = b.address.fqdn ↔ a = b ∨ Installation.HostsClash a b)) ∧
    (∀ c ∈ i.clusters, ∀ s ∈ c.shards, ∀ d ∈ i.clusters, ∀ t ∈ d.shards,
      (c.shardServiceName s = d.shardServiceName t ↔
        (c = d ∧ s = t) ∨ Clash c.name s.name d.name t.name)) ∧
    (∀ c ∈ i.clusters,
      (∀ a ∈ c.hosts, ∀ b ∈ c.hosts, ¬Installation.HostsClash a b) ∧
        ∀ s ∈ c.shards, ∀ t ∈ c.shards, ¬Clash c.name s.name c.name t.name) ∧
    (i.Separate ∨ i.Plain → i.TellsApart) := by
  obtain ⟨aligned, -⟩ := InstallationResource.aligned_normalize h
  obtain ⟨placed, -⟩ := InstallationResource.normalize_spec h
  have named := InstallationResource.named_normalize h
  have hids := aligned.nodup_ids
  refine ⟨hids, fun a ha b hb => ⟨?_, ?_, ?_⟩, fun c hc s hs d hd t ht => ?_,
    fun c hc => ⟨fun a ha b hb => ?_, fun s _ t _ => not_clash_self _ _ _⟩, fun hapart => ?_⟩
  · exact Installation.workloadName_eq_iff named placed ha hb
  · exact Installation.configMapName_eq_iff named placed ha hb
  · exact Installation.fqdn_eq_iff named placed ha hb
  · exact Installation.shardServiceName_eq_iff named placed hc hd hs ht
  · have hsame : a.address.cluster = b.address.cluster := by
      rw [((named.cluster c hc).of_mem ha).1, ((named.cluster c hc).of_mem hb).1]
    unfold Installation.HostsClash
    rw [hsame]
    exact not_clash_self _ _ _
  · have hhosts : i.hosts.Nodup := List.Nodup.of_map _ hids
    refine Installation.tellsApart_of_clash named placed hhosts (fun a ha b hb => ?_)
      fun c hc s hs d hd t ht => ?_
    · rcases hapart with separate | plain
      · obtain ⟨c, hc, -, hca⟩ := named.cluster_mem ha
        obtain ⟨d, hd, -, hdb⟩ := named.cluster_mem hb
        unfold Installation.HostsClash
        rw [hca, hdb]
        exact separate.not_clash hc hd _ _
      · exact plain.not_hostsClash named ha hb
    · rcases hapart with separate | plain
      · exact separate.not_clash hc hd _ _
      · exact plain.not_clash hc hd hs ht

/-- Two clusters with one host each. The dash that joins the first one's name to that of its shard
stands where the second one's name has a dash of its own. -/
def dashed : InstallationResource where
  metadata := { ns := some "ns", name := some "demo", uid := some "uid-1" }
  spec := { configuration := { clusters :=
    [{ name := "events", layout := { shards := [{ name := some "eu-0" }] } },
     { name := "events-eu" }] } }

/-- The general result at two hosts that clash. -/
theorem names_shared_iff_dashed :
    ∃ i a b, dashed.normalize {} = .ok i ∧ a ∈ i.hosts ∧ b ∈ i.hosts ∧ a ≠ b ∧
      Installation.HostsClash a b ∧ a.address.workloadName = b.address.workloadName := by
  obtain ⟨i, hi⟩ : ∃ i, dashed.normalize {} = .ok i := ⟨_, rfl⟩
  have hhosts : (dashed.normalize {}).map
      (·.hosts.map fun host => (host.id.cluster, host.address.cluster, host.address.place)) =
        .ok [(0, "events", "eu-0-0"), (1, "events-eu", "0-0")] := rfl
  rw [hi] at hhosts
  obtain ⟨a, rest, hsplit, ha, hrest⟩ := List.map_eq_cons_iff.1 (Except.ok.inj hhosts)
  obtain ⟨b, rfl, hb⟩ := List.map_eq_singleton_iff.1 hrest
  simp only [Prod.mk.injEq] at ha hb
  have hclash : Installation.HostsClash a b := by
    refine .inl ⟨"eu", ?_, ?_⟩
    · rw [ha.2.1, hb.2.1]
      rfl
    · rw [ha.2.2, hb.2.2]
      rfl
  have hmemA : a ∈ i.hosts := by simp [hsplit]
  have hmemB : b ∈ i.hosts := by simp [hsplit]
  refine ⟨i, a, b, hi, hmemA, hmemB, ?_, hclash, ?_⟩
  · rintro rfl
    exact absurd (ha.1.symm.trans hb.1) (by decide)
  · exact ((names_shared_iff hi).2.1 a hmemA b hmemB).1.2 (.inr hclash)

/-- An installation is accepted in which two hosts have the names of all their objects in common,
and two shards the name of their Service. -/
theorem names_shared_across_clusters :
    ∃ i, dashed.normalize {} = .ok i ∧
      i.hosts.map Host.id = [⟨0, 0, 0⟩, ⟨1, 0, 0⟩] ∧
      i.hosts.map (·.address.workloadName) = ["chi-demo-events-eu-0-0", "chi-demo-events-eu-0-0"] ∧
      i.hosts.map (·.address.fqdn) =
        ["chi-demo-events-eu-0-0.ns.svc.cluster.local",
         "chi-demo-events-eu-0-0.ns.svc.cluster.local"] ∧
      i.hosts.map (·.address.configMapName) =
        ["chi-demo-deploy-confd-events-eu-0-0", "chi-demo-deploy-confd-events-eu-0-0"] ∧
      i.clusters.map (fun c => c.shards.map c.shardServiceName) =
        [["shard-demo-events-eu-0"], ["shard-demo-events-eu-0"]] := by
  exact ⟨_, rfl, rfl, rfl, rfl, rfl, rfl⟩

end ShardOperator
