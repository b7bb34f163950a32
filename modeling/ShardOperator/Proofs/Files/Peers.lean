import ShardOperator.Files.Flavour
import ShardOperator.Proofs.Topology.Placement

namespace ShardOperator

/-- The host with other flags. -/
def Host.reflag (g : Host → HostFlags) (host : Host) : Host := { host with flags := g host }

variable {g : Host → HostFlags} {e : Exclusion}

theorem Exclusion.includes_none (host : Host) : Exclusion.none.includes host = true := by
  simp [Exclusion.includes, Exclusion.excludes, Exclusion.none, HostFlags.intersects]

namespace Cluster

theorem shardHosts_mapHosts (c : Cluster) (f : Host → Host) (shard : Nat) :
    (c.mapHosts f).shardHosts shard = (c.shardHosts shard).map f := by
  have hrow (row : List (Option Host)) :
      (row.map (·.map f)).filterMap id = (row.filterMap id).map f := by
    induction row with
    | nil => rfl
    | cons cell row ih => cases cell <;> simp_all
  unfold shardHosts mapHosts
  rw [List.getElem?_map]
  cases c.rows[shard]? with
  | none => rfl
  | some row => exact hrow row

theorem mem_hosts_of_mem_shardHosts {c : Cluster} {shard : Nat} {host : Host}
    (h : host ∈ c.shardHosts shard) : host ∈ c.hosts := by
  unfold shardHosts at h
  cases hrow : c.rows[shard]? with
  | none =>
    rw [hrow] at h
    cases h
  | some row =>
    rw [hrow] at h
    exact List.mem_flatMap.2 ⟨row, List.mem_of_getElem? hrow, h⟩

end Cluster

namespace PeerList

theorem filter_none (hosts : List Host) : hosts.filter Exclusion.none.includes = hosts :=
  List.filter_eq_self.2 fun host _ => Exclusion.includes_none host

theorem filter_reflag {hosts : List Host}
    (h : ∀ host ∈ hosts, e.includes (host.reflag g) = true) :
    (hosts.map (Host.reflag g)).filter e.includes = hosts.map (Host.reflag g) := by
  rw [List.filter_eq_self]
  intro host hhost
  obtain ⟨before, hbefore, rfl⟩ := List.mem_map.1 hhost
  exact h before hbefore

theorem foldl_writeReplica (w : XmlWriter) (hosts : List Host) :
    (hosts.map (Host.reflag g)).foldl writeReplica w = hosts.foldl writeReplica w := by
  rw [List.foldl_map]
  rfl

theorem writeShard_mapHosts (c : Cluster) (w : XmlWriter) (shard : Shard) (hosts : List Host) :
    writeShard (c.mapHosts (Host.reflag g)) w shard (hosts.map (Host.reflag g)) =
      writeShard c w shard hosts := by
  unfold writeShard
  dsimp only
  rw [Cluster.shardHosts_mapHosts, List.length_map, foldl_writeReplica]

theorem listed_mapHosts {c : Cluster}
    (h : ∀ host ∈ c.hosts, e.includes (host.reflag g) = true) :
    listed (c.mapHosts (Host.reflag g)) e =
      (listed c .none).map fun s => (s.1, s.2.map (Host.reflag g)) := by
  unfold listed
  have hshard (shard : Shard) :
      ((c.mapHosts (Host.reflag g)).shardHosts shard.index).filter e.includes =
        ((c.shardHosts shard.index).filter Exclusion.none.includes).map (Host.reflag g) := by
    rw [Cluster.shardHosts_mapHosts, filter_none, filter_reflag]
    intro host hhost
    exact h host (Cluster.mem_hosts_of_mem_shardHosts hhost)
  simp only [hshard]
  rw [List.filter_map, List.filter_map, List.map_map]
  have hempty : ((fun s : Shard × List Host => !s.2.isEmpty) ∘ fun shard : Shard =>
        (shard, ((c.shardHosts shard.index).filter Exclusion.none.includes).map
          (Host.reflag g))) =
      (fun s : Shard × List Host => !s.2.isEmpty) ∘ fun shard : Shard =>
        (shard, (c.shardHosts shard.index).filter Exclusion.none.includes) := by
    funext shard
    simp
  rw [show (c.mapHosts (Host.reflag g)).shards = c.shards from rfl, hempty]
  rfl

theorem writeCluster_mapHosts {c : Cluster} (w : XmlWriter)
    (h : ∀ host ∈ c.hosts, e.includes (host.reflag g) = true) :
    writeCluster e w (c.mapHosts (Host.reflag g)) = writeCluster .none w c := by
  unfold writeCluster
  rw [listed_mapHosts h]
  cases listed c .none with
  | nil => rfl
  | cons s rest =>
    simp only [List.map_cons, List.foldl_cons, List.foldl_map, writeShard_mapHosts]
    rfl

theorem writeAllSharded_reflag (w : XmlWriter) (hosts : List Host) :
    writeAllSharded w (hosts.map (Host.reflag g)) = writeAllSharded w hosts := by
  unfold writeAllSharded
  dsimp only
  rw [List.foldl_map, List.isEmpty_map]
  rfl

theorem foldl_writeCluster {clusters : List Cluster} (w : XmlWriter)
    (h : ∀ c ∈ clusters, ∀ host ∈ c.hosts, e.includes (host.reflag g) = true) :
    (clusters.map (·.mapHosts (Host.reflag g))).foldl (writeCluster e) w =
      clusters.foldl (writeCluster .none) w := by
  induction clusters generalizing w with
  | nil => rfl
  | cons c rest ih =>
    rw [List.map_cons, List.foldl_cons, List.foldl_cons,
      writeCluster_mapHosts w (h c (List.mem_cons_self ..))]
    exact ih _ fun d hd => h d (List.mem_cons_of_mem _ hd)

/-- Flags matter to the peers only where they exclude a host. -/
theorem render_mapHosts {i : Installation}
    (h : ∀ host ∈ i.hosts, e.includes (host.reflag g) = true) :
    render (i.mapHosts (Host.reflag g)) e = render i .none := by
  have hclusters (w : XmlWriter) : (i.mapHosts (Host.reflag g)).clusters.foldl (writeCluster e) w =
      i.clusters.foldl (writeCluster .none) w :=
    foldl_writeCluster w fun c hc host hhost => h host (List.mem_flatMap.2 ⟨c, hc, hhost⟩)
  unfold render
  dsimp only
  rw [hclusters, Installation.hosts_mapHosts, filter_reflag h, writeAllSharded_reflag, filter_none]

end PeerList

namespace KeeperFiles

theorem config_mapHosts {i : Installation}
    (h : ∀ host ∈ i.hosts, e.includes (host.reflag g) = true) :
    config (i.mapHosts (Host.reflag g)) e = config i .none := by
  have hlisted : (i.hosts.map (Host.reflag g)).zipIdx.filter (e.includes ·.1) =
      (i.hosts.zipIdx.filter (Exclusion.none.includes ·.1)).map fun s => (s.1.reflag g, s.2) := by
    rw [List.zipIdx_map, List.filter_map]
    congr 1
    refine List.filter_congr fun s hs => ?_
    rw [Exclusion.includes_none]
    exact h s.1 (List.fst_mem_of_mem_zipIdx hs)
  unfold config
  rw [Installation.hosts_mapHosts, hlisted]
  dsimp only
  rw [List.foldl_map]
  rfl

theorem serverId?_mapHosts (i : Installation) (host : Host) :
    serverId? (i.mapHosts (Host.reflag g)) (host.reflag g) = serverId? i host := by
  unfold serverId?
  rw [Installation.hosts_mapHosts, List.findIdx?_map]
  rfl

end KeeperFiles

namespace Flavour

/-- The common files are those of the installation with all its hosts, if none is excluded. -/
theorem commonFiles_mapHosts (flavour : Flavour) {i : Installation}
    (h : ∀ host ∈ i.hosts, e.includes (host.reflag g) = true) :
    flavour.commonFiles (i.mapHosts (Host.reflag g)) e = flavour.commonFiles i .none := by
  cases flavour with
  | server =>
    change ServerFiles.common (i.mapHosts (Host.reflag g)) e = ServerFiles.common i .none
    unfold ServerFiles.common
    rw [PeerList.render_mapHosts h]
    rfl
  | keeper =>
    change KeeperFiles.common (i.mapHosts (Host.reflag g)) e = KeeperFiles.common i .none
    unfold KeeperFiles.common
    rw [KeeperFiles.config_mapHosts h]
    rfl

theorem hostFiles_mapHosts (flavour : Flavour) (i : Installation) (host : Host) :
    flavour.hostFiles (i.mapHosts (Host.reflag g)) (host.reflag g) = flavour.hostFiles i host := by
  cases flavour with
  | server => rfl
  | keeper =>
    change KeeperFiles.host (i.mapHosts (Host.reflag g)) (host.reflag g) = KeeperFiles.host i host
    unfold KeeperFiles.host
    rw [KeeperFiles.serverId?_mapHosts]
    rfl

end Flavour

end ShardOperator
