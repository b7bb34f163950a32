import ShardOperator.Desired.ConfigMaps
import ShardOperator.Proofs.Data.Lookup
import ShardOperator.Proofs.Topology.Alignment

namespace ShardOperator

/-- One thing that is written into a document. -/
inductive Xml.Piece where
  | opening (tag : String)
  | openingWith (tag attr value : String)
  | closing (tag : String)
  | element (tag value : String)

namespace Xml

def Piece.valueOf? (tag : String) : Piece → Option String
  | .element other value => if other = tag then some value else none
  | _ => none

/-- The values of the elements with the tag. -/
def valuesOf (tag : String) (pieces : List Piece) : List String :=
  pieces.filterMap (Piece.valueOf? tag)

theorem valuesOf_append (tag : String) (pieces more : List Piece) :
    valuesOf tag (pieces ++ more) = valuesOf tag pieces ++ valuesOf tag more :=
  List.filterMap_append ..

theorem valuesOf_flatMap {α : Type} (tag : String) (xs : List α) (pieces : α → List Piece) :
    valuesOf tag (xs.flatMap pieces) = xs.flatMap fun x => valuesOf tag (pieces x) :=
  List.filterMap_flatMap ..

end Xml

namespace XmlWriter

def put (w : XmlWriter) : Xml.Piece → XmlWriter
  | .opening tag => w.openTag tag
  | .openingWith tag attr value => w.openTagWith tag attr value
  | .closing tag => w.closeTag tag
  | .element tag value => w.element tag value

def putAll (w : XmlWriter) (pieces : List Xml.Piece) : XmlWriter := pieces.foldl put w

theorem putAll_append (w : XmlWriter) (pieces more : List Xml.Piece) :
    w.putAll (pieces ++ more) = (w.putAll pieces).putAll more :=
  List.foldl_append

theorem putAll_singleton (w : XmlWriter) (piece : Xml.Piece) : w.putAll [piece] = w.put piece :=
  rfl

/-- What is written for each of some items is written for all of them. -/
theorem foldl_putAll {α : Type} {write : XmlWriter → α → XmlWriter} {pieces : α → List Xml.Piece}
    (h : ∀ w x, write w x = w.putAll (pieces x)) (w : XmlWriter) (xs : List α) :
    xs.foldl write w = w.putAll (xs.flatMap pieces) := by
  induction xs generalizing w with
  | nil => rfl
  | cons x xs ih => rw [List.foldl_cons, ih, h, List.flatMap_cons, putAll_append]

end XmlWriter

namespace PeerList

open Xml

def replicaPieces (host : Host) : List Piece :=
  [.opening "replica", .element "host" host.address.workloadName,
    .element "port" (int32Text host.tcpPort), .closing "replica"]

def shardPieces (c : Cluster) (shard : Shard) (hosts : List Host) : List Piece :=
  let replicated := decide (1 < (c.shardHosts shard.index).length)
  [.opening "shard"] ++ (shard.weight.map fun n => .element "weight" (toString n.toNat)).toList ++
    [.element "internal_replication" (boolText (shard.internalReplication.getD replicated))] ++
    hosts.flatMap replicaPieces ++ [.closing "shard"]

def clusterPieces (e : Exclusion) (c : Cluster) : List Piece :=
  match listed c e with
  | [] => []
  | shards =>
    [.opening c.name] ++ shards.flatMap (fun s => shardPieces c s.1 s.2) ++ [.closing c.name]

def ownShardPieces (host : Host) : List Piece :=
  [.opening "shard", .element "internal_replication" "false"] ++ replicaPieces host ++
    [.closing "shard"]

def allShardedPieces (hosts : List Host) : List Piece :=
  if hosts.isEmpty then []
  else [.opening allSharded] ++ hosts.flatMap ownShardPieces ++ [.closing allSharded]

/-- What a peer list is written of. -/
def pieces (i : Installation) (e : Exclusion) : List Piece :=
  [.openingWith "remote_servers" "replace" "true"] ++ i.clusters.flatMap (clusterPieces e) ++
    allShardedPieces (i.hosts.filter e.includes) ++ [.closing "remote_servers"]

theorem writeReplica_eq (w : XmlWriter) (host : Host) :
    writeReplica w host = w.putAll (replicaPieces host) :=
  rfl

theorem writeShard_eq (c : Cluster) (w : XmlWriter) (shard : Shard) (hosts : List Host) :
    writeShard c w shard hosts = w.putAll (shardPieces c shard hosts) := by
  unfold writeShard shardPieces
  simp only [XmlWriter.putAll_append, XmlWriter.foldl_putAll writeReplica_eq]
  cases shard.weight <;> rfl

theorem writeCluster_eq (e : Exclusion) (w : XmlWriter) (c : Cluster) :
    writeCluster e w c = w.putAll (clusterPieces e c) := by
  have hshards (w : XmlWriter) (shards : List (Shard × List Host)) :
      shards.foldl (fun w s => writeShard c w s.1 s.2) w =
        w.putAll (shards.flatMap fun s => shardPieces c s.1 s.2) :=
    XmlWriter.foldl_putAll (fun w s => writeShard_eq c w s.1 s.2) w shards
  unfold writeCluster clusterPieces
  cases listed c e with
  | nil => rfl
  | cons first rest =>
    rw [XmlWriter.putAll_append, XmlWriter.putAll_append, XmlWriter.putAll_singleton,
      XmlWriter.putAll_singleton, ← hshards]
    rfl

theorem writeAllSharded_eq (w : XmlWriter) (hosts : List Host) :
    writeAllSharded w hosts = w.putAll (allShardedPieces hosts) := by
  have hone (w : XmlWriter) (host : Host) :
      (writeReplica ((w.openTag "shard").element "internal_replication" "false") host).closeTag
        "shard" = w.putAll (ownShardPieces host) := by
    rw [ownShardPieces, XmlWriter.putAll_append, XmlWriter.putAll_append, ← writeReplica_eq]
    rfl
  unfold writeAllSharded allShardedPieces
  split
  · rfl
  · simp only [XmlWriter.foldl_putAll hone, XmlWriter.putAll_append, XmlWriter.putAll_singleton,
      XmlWriter.put]

theorem render_eq (i : Installation) (e : Exclusion) :
    render i e = (XmlWriter.document.putAll (pieces i e)).finish := by
  unfold render pieces
  simp only [XmlWriter.putAll_append, XmlWriter.foldl_putAll (writeCluster_eq e),
    writeAllSharded_eq]
  rfl

theorem hosts_replicas (hosts : List Host) :
    valuesOf "host" (hosts.flatMap replicaPieces) = hosts.map (·.address.workloadName) := by
  rw [valuesOf_flatMap, List.map_eq_flatMap]
  rfl

theorem hosts_shard (c : Cluster) (shard : Shard) (hosts : List Host) :
    valuesOf "host" (shardPieces c shard hosts) = hosts.map (·.address.workloadName) := by
  have hweight : valuesOf "host"
      (shard.weight.map fun n => Piece.element "weight" (toString n.toNat)).toList = [] := by
    cases shard.weight <;> rfl
  simp only [shardPieces, valuesOf_append, hosts_replicas, hweight]
  exact List.append_nil _

/-- No host is lost with the shards that list none. -/
theorem flatMap_listed {c : Cluster} (aligned : c.Aligned) (e : Exclusion) :
    (listed c e).flatMap (·.2) = c.hosts.filter e.includes := by
  have hdrop (shards : List (Shard × List Host)) :
      (shards.filter (!·.2.isEmpty)).flatMap (·.2) = shards.flatMap (·.2) := by
    induction shards with
    | nil => rfl
    | cons s rest ih =>
      rw [List.filter_cons]
      rcases s with ⟨shard, _ | ⟨host, hosts⟩⟩
      · exact ih
      · exact congrArg (host :: hosts ++ ·) ih
  rw [listed, hdrop, List.flatMap_map, ← aligned.flatMap_shardHosts, List.filter_flatMap]

theorem hosts_cluster {c : Cluster} (aligned : c.Aligned) (e : Exclusion) :
    valuesOf "host" (clusterPieces e c) =
      (c.hosts.filter e.includes).map (·.address.workloadName) := by
  have hshards (shards : List (Shard × List Host)) :
      valuesOf "host" (shards.flatMap fun s => shardPieces c s.1 s.2) =
        (shards.flatMap (·.2)).map (·.address.workloadName) := by
    simp only [valuesOf_flatMap, hosts_shard, List.map_flatMap]
  rw [← flatMap_listed aligned e, clusterPieces]
  cases listed c e with
  | nil => rfl
  | cons first rest =>
    simp only [valuesOf_append, hshards]
    exact List.append_nil _

theorem hosts_allSharded (hosts : List Host) :
    valuesOf "host" (allShardedPieces hosts) = hosts.map (·.address.workloadName) := by
  cases hosts with
  | nil => rfl
  | cons first rest =>
    have hones : valuesOf "host" ((first :: rest).flatMap ownShardPieces) =
        (first :: rest).map (·.address.workloadName) := by
      rw [valuesOf_flatMap, List.map_eq_flatMap]
      rfl
    rw [allShardedPieces, if_neg (by simp), valuesOf_append, valuesOf_append, hones]
    exact List.append_nil _

/-- A peer list names the hosts that are not excluded, once among the shards of their clusters and
once more each as a shard of its own. -/
theorem hosts_pieces {i : Installation} (aligned : i.Aligned) (e : Exclusion) :
    valuesOf "host" (pieces i e) =
      (i.hosts.filter e.includes).map (·.address.workloadName) ++
        (i.hosts.filter e.includes).map (·.address.workloadName) := by
  have hclusters : valuesOf "host" (i.clusters.flatMap (clusterPieces e)) =
      (i.hosts.filter e.includes).map (·.address.workloadName) := by
    rw [valuesOf_flatMap, Installation.hosts, List.filter_flatMap, List.map_flatMap]
    exact congrArg List.flatten (List.map_congr_left fun c hc =>
      hosts_cluster (aligned.cluster c hc) e)
  simp only [pieces, valuesOf_append, hclusters, hosts_allSharded]
  exact List.append_nil _

end PeerList

namespace KeeperFiles

open Xml

def serverPieces (host : Host) (id : Nat) : List Piece :=
  [.opening "server", .element "id" (toString id), .element "hostname" host.address.workloadName,
    .element "port" (toString raftPort), .closing "server"]

/-- What the configuration of the coordination servers is written of. -/
def pieces (i : Installation) (e : Exclusion) : List Piece :=
  [.opening "keeper_server",
    .element "log_storage_path" "/var/lib/clickhouse-keeper/coordination/logs",
    .element "snapshot_storage_path" "/var/lib/clickhouse-keeper/coordination/snapshots",
    .opening "raft_configuration"] ++
    (i.hosts.zipIdx.filter (e.includes ·.1)).flatMap (fun s => serverPieces s.1 (s.2 + 1)) ++
    [.closing "raft_configuration", .closing "keeper_server"]

theorem config_eq (i : Installation) (e : Exclusion) :
    config i e = (XmlWriter.document.putAll (pieces i e)).finish := by
  have hserver (w : XmlWriter) (s : Host × Nat) :
      writeServer w (s.2 + 1) s.1 = w.putAll (serverPieces s.1 (s.2 + 1)) :=
    rfl
  unfold config pieces
  simp only [XmlWriter.putAll_append, XmlWriter.foldl_putAll hserver]
  rfl

theorem fst_filter_zipIdx (hosts : List Host) (e : Exclusion) :
    (hosts.zipIdx.filter (e.includes ·.1)).map Prod.fst = hosts.filter e.includes := by
  rw [← List.zipIdx_map_fst 0 hosts, List.filter_map, List.zipIdx_map_fst]
  rfl

/-- The coordination servers are the hosts that are not excluded. -/
theorem hosts_pieces (i : Installation) (e : Exclusion) :
    valuesOf "hostname" (pieces i e) =
      (i.hosts.filter e.includes).map (·.address.workloadName) := by
  have hservers (listed : List (Host × Nat)) :
      valuesOf "hostname" (listed.flatMap fun s => serverPieces s.1 (s.2 + 1)) =
        (listed.map Prod.fst).map (·.address.workloadName) := by
    rw [valuesOf_flatMap, List.map_map, List.map_eq_flatMap]
    rfl
  simp only [pieces, valuesOf_append, hservers, fst_filter_zipIdx]
  exact List.append_nil _

end KeeperFiles

namespace Flavour

/-- The file that names the peers, the element that it names them in, and what it is written of. -/
def peerFile : Flavour → String
  | .server => ServerFiles.remoteServersFile
  | .keeper => KeeperFiles.configFile

def peerTag : Flavour → String
  | .server => "host"
  | .keeper => "hostname"

def peerPieces : Flavour → Installation → Exclusion → List Xml.Piece
  | .server, i, e => PeerList.pieces i e
  | .keeper, i, e => KeeperFiles.pieces i e

/-- Database servers are named with the shards of their clusters and once more on their own. -/
def mentions : Flavour → List Host → List Host
  | .server, hosts => hosts ++ hosts
  | .keeper, hosts => hosts

theorem valuesOf_peerPieces (flavour : Flavour) {i : Installation} (aligned : i.Aligned)
    (e : Exclusion) :
    Xml.valuesOf flavour.peerTag (flavour.peerPieces i e) =
      (flavour.mentions (i.hosts.filter e.includes)).map (·.address.workloadName) := by
  cases flavour with
  | server =>
    refine (PeerList.hosts_pieces aligned e).trans ?_
    rw [mentions, List.map_append]
  | keeper => exact KeeperFiles.hosts_pieces i e

/-- A declared file may have the place of the one that names the peers. -/
theorem find?_peerFile (flavour : Flavour) (i : Installation) (e : Exclusion) :
    (flavour.commonFiles i e).find? flavour.peerFile =
      ((i.files.files .common true).find? flavour.peerFile).or
        (some (XmlWriter.document.putAll (flavour.peerPieces i e)).finish) := by
  cases flavour with
  | server =>
    change (ServerFiles.common i e).find? ServerFiles.remoteServersFile = _
    have hothers : ∀ entry ∈ ((ServerFiles.zookeeper? i).map fun text =>
        (ServerFiles.zookeeperFile, text)).toList ++
        ServerFiles.settingsIfAny ServerFiles.settingsFile i.settings,
        entry.1 ≠ ServerFiles.remoteServersFile := by
      intro entry hentry
      rcases List.mem_append.1 hentry with hentry | hentry
      · obtain ⟨text, -, rfl⟩ := Option.map_eq_some_iff.1 (Option.mem_toList.1 hentry)
        exact (by decide : ServerFiles.zookeeperFile ≠ ServerFiles.remoteServersFile)
      · unfold ServerFiles.settingsIfAny at hentry
        split at hentry
        · cases hentry
        · rw [List.mem_singleton.1 hentry]
          exact (by decide : ServerFiles.settingsFile ≠ ServerFiles.remoteServersFile)
    rw [ServerFiles.common, SortedMap.find?_override, PeerList.render_eq, List.append_assoc]
    congr 1
    refine (SortedMap.find?_insertAll_of_ne hothers _).trans ?_
    rw [SortedMap.find?_insert, if_pos rfl]
    rfl
  | keeper =>
    change (KeeperFiles.common i e).find? KeeperFiles.configFile = _
    rw [KeeperFiles.common, SortedMap.find?_override, KeeperFiles.config_eq]
    rfl

end Flavour

/-- The common ConfigMap names the peers and no other host: they are the hosts that are handed to
the writer, and the elements of the document that is written. -/
structure Blueprint.Announces (b : Blueprint) (e : Exclusion) (peers : List Host) : Prop where
  chosen : b.installation.hosts.filter e.includes = peers
  named : Xml.valuesOf b.flavour.peerTag (b.flavour.peerPieces b.installation e) =
    (b.flavour.mentions peers).map (·.address.workloadName)
  written : ∃ files, (b.commonConfigMap e).body.data = some files ∧
    files.find? b.flavour.peerFile =
      ((b.installation.files.files .common true).find? b.flavour.peerFile).or
        (some (XmlWriter.document.putAll (b.flavour.peerPieces b.installation e)).finish)

theorem Blueprint.announces (b : Blueprint) (aligned : b.installation.Aligned) (e : Exclusion) :
    b.Announces e (b.installation.hosts.filter e.includes) where
  chosen := rfl
  named := b.flavour.valuesOf_peerPieces aligned e
  written := ⟨b.flavour.commonFiles b.installation e, rfl,
    b.flavour.find?_peerFile b.installation e⟩

end ShardOperator
