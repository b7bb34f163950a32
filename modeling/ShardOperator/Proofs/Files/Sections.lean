import Mathlib.Data.List.Forall2
import ShardOperator.Proofs.Files.Elements
import ShardOperator.Proofs.Files.Peers
import ShardOperator.Proofs.Topology.Matrix

namespace ShardOperator

namespace Cluster.Aligned

variable {c : Cluster}

theorem mem_shardHosts (h : c.Aligned) {s : Nat} {host : Host} :
    host ∈ c.shardHosts s ↔ host ∈ c.hosts ∧ host.id.shard = s := by
  rw [mem_shardHosts_iff, mem_hosts_iff]
  constructor
  · rintro ⟨r, hplace⟩
    exact ⟨⟨s, r, hplace⟩, by rw [h.place hplace]⟩
  · rintro ⟨⟨t, r, hplace⟩, hshard⟩
    obtain rfl : t = s := by rwa [h.place hplace] at hshard
    exact ⟨r, hplace⟩

/-- The hosts of a shard stand in the order of their replicas. -/
theorem ascending_shardHosts (h : c.Aligned) (s : Nat) :
    (c.shardHosts s).Pairwise fun a b => a.id.replica < b.id.replica := by
  have place {r : Nat} {host : Host} (hr : r < (c.rows[s]?.getD []).length)
      (hhost : (c.rows[s]?.getD [])[r] = some host) : host.id.replica = r := by
    have hplace : c.host? s r = some host := by
      cases hrow : c.rows[s]? with
      | none => simp [hrow] at hr
      | some row =>
        simp only [hrow, Option.getD_some] at hr hhost
        exact host?_eq_some.2 ⟨row, hrow, by rw [List.getElem?_eq_getElem hr, hhost]⟩
    rw [h.place hplace]
  refine List.pairwise_filterMap.2 (List.pairwise_iff_getElem.2 fun j k hj hk hlt => ?_)
  intro a ha b hb
  rw [place hj ha, place hk hb]
  exact hlt

end Cluster.Aligned

namespace PeerList

open Xml

/-- A list with something in it. -/
def nonempty? {α : Type} : List α → Option (List α)
  | [] => none
  | xs => some xs

/-- A shard of a peer list: what is told about it, and its hosts. -/
structure ListedShard where
  weight : Option UInt32
  internalReplication : Bool
  hosts : List Host

/-- A part of a peer list with a name of its own. -/
structure Section where
  name : String
  shards : List ListedShard

def replicaNode (host : Host) : Node :=
  .branch "replica" [.leaf "host" host.address.workloadName, .leaf "port" (int32Text host.tcpPort)]

namespace ListedShard

def node (s : ListedShard) : Node :=
  .branch "shard" ((s.weight.map fun n => .leaf "weight" (toString n.toNat)).toList ++
    [.leaf "internal_replication" (boolText s.internalReplication)] ++ s.hosts.map replicaNode)

/-- The shard with some of its hosts, or nothing if none of them is kept. -/
def keep (kept : Host → Bool) (s : ListedShard) : Option ListedShard :=
  (nonempty? (s.hosts.filter kept)).map fun hosts => { s with hosts }

/-- A shard with all its hosts. A shard of several hosts counts as replicated, unless it is
declared not to be. -/
def ofShard (c : Cluster) (shard : Shard) : ListedShard where
  weight := shard.weight
  internalReplication :=
    shard.internalReplication.getD (decide (1 < (c.shardHosts shard.index).length))
  hosts := c.shardHosts shard.index

def ofHost (host : Host) : ListedShard := ⟨none, false, [host]⟩

end ListedShard

namespace Section

def node (s : Section) : Node := .branch s.name (s.shards.map ListedShard.node)

def hosts (s : Section) : List Host := s.shards.flatMap (·.hosts)

/-- The section with some of its hosts, or nothing if none of them is kept. -/
def keep (kept : Host → Bool) (s : Section) : Option Section :=
  (nonempty? (s.shards.filterMap (ListedShard.keep kept))).map fun shards => { s with shards }

def ofCluster (c : Cluster) : Section := ⟨c.name, c.shards.map (ListedShard.ofShard c)⟩

def ofHosts (hosts : List Host) : Section := ⟨allSharded, hosts.map ListedShard.ofHost⟩

end Section

/-- Sections with some of their hosts, without the shards and the sections that keep none. -/
def prune (kept : Host → Bool) (sections : List Section) : List Section :=
  sections.filterMap (Section.keep kept)

/-- The sections of a peer list from which no host is excluded. -/
def complete (i : Installation) : List Section :=
  i.clusters.map Section.ofCluster ++ [Section.ofHosts i.hosts]

def sections (i : Installation) (e : Exclusion) : List Section := prune e.includes (complete i)

/-- The element that a peer list consists of. -/
def element (sections : List Section) : Node :=
  .branch "remote_servers" (sections.map Section.node) (some ("replace", "true"))

section Keeping

variable {α β : Type} {xs ys : List α} {make : List α → β} {kept more : Host → Bool}

theorem map_nonempty?_eq_none : (nonempty? xs).map make = none ↔ xs = [] := by
  cases xs <;> simp [nonempty?]

theorem map_nonempty?_eq_some {y : β} :
    (nonempty? xs).map make = some y ↔ xs ≠ [] ∧ y = make xs := by
  cases xs <;> simp [nonempty?, eq_comm]

/-- What is made of a list goes on to a part of it. -/
theorem bind_nonempty? {next : β → Option β} (hempty : xs = [] → ys = [])
    (hnext : next (make xs) = (nonempty? ys).map make) :
    ((nonempty? xs).map make).bind next = (nonempty? ys).map make := by
  cases xs with
  | nil => rw [hempty rfl]; rfl
  | cons x rest => exact hnext

theorem ListedShard.keep_eq_none {s : ListedShard} :
    s.keep kept = none ↔ s.hosts.filter kept = [] :=
  map_nonempty?_eq_none

theorem ListedShard.keep_eq_some {s t : ListedShard} :
    s.keep kept = some t ↔
      s.hosts.filter kept ≠ [] ∧ t = { s with hosts := s.hosts.filter kept } :=
  map_nonempty?_eq_some

theorem Section.keep_eq_some {s t : Section} :
    s.keep kept = some t ↔ s.shards.filterMap (ListedShard.keep kept) ≠ [] ∧
      t = { s with shards := s.shards.filterMap (ListedShard.keep kept) } :=
  map_nonempty?_eq_some

/-- Of what is kept after some hosts were left out, nothing depends on those. -/
theorem ListedShard.keep_bind_keep {s : ListedShard}
    (h : ∀ host ∈ s.hosts, more host = true → kept host = true) :
    (s.keep kept).bind (keep more) = s.keep more := by
  have hfilter : (s.hosts.filter kept).filter more = s.hosts.filter more := by
    rw [List.filter_filter]
    refine List.filter_congr fun host hhost => ?_
    cases hmore : more host with
    | false => rfl
    | true => rw [h host hhost hmore, Bool.and_self]
  refine bind_nonempty? (fun hempty => ?_) ?_
  · rw [← hfilter, hempty, List.filter_nil]
  · rw [keep, hfilter]

theorem Section.keep_bind_keep {s : Section}
    (h : ∀ host ∈ s.hosts, more host = true → kept host = true) :
    (s.keep kept).bind (keep more) = s.keep more := by
  have hshards : (s.shards.filterMap (ListedShard.keep kept)).filterMap (ListedShard.keep more) =
      s.shards.filterMap (ListedShard.keep more) := by
    rw [List.filterMap_filterMap]
    refine List.filterMap_congr fun shard hshard => ListedShard.keep_bind_keep fun host hhost => ?_
    exact h host (List.mem_flatMap.2 ⟨shard, hshard, hhost⟩)
  refine bind_nonempty? (fun hempty => ?_) ?_
  · rw [← hshards, hempty, List.filterMap_nil]
  · rw [keep, hshards]

theorem prune_prune {sections : List Section}
    (h : ∀ s ∈ sections, ∀ host ∈ s.hosts, more host = true → kept host = true) :
    prune more (prune kept sections) = prune more sections := by
  rw [prune, prune, prune, List.filterMap_filterMap]
  exact List.filterMap_congr fun s hs => Section.keep_bind_keep (h s hs)

end Keeping

section Written

theorem ListedShard.pieces_node (c : Cluster) (shard : Shard) (hosts : List Host) :
    ({ ofShard c shard with hosts } : ListedShard).node.pieces = shardPieces c shard hosts := by
  have hweight :
      (shard.weight.map fun n => Node.leaf "weight" (toString n.toNat)).toList.flatMap Node.pieces =
        (shard.weight.map fun n => Piece.element "weight" (toString n.toNat)).toList := by
    cases shard.weight <;> rfl
  have hhosts : (hosts.map replicaNode).flatMap Node.pieces = hosts.flatMap replicaPieces :=
    List.flatMap_map ..
  rw [node, Node.pieces_branch, List.flatMap_append, List.flatMap_append, hhosts]
  simp only [ofShard, hweight, shardPieces, ← List.append_assoc]
  rfl

/-- The shards that keep an included host are those that are listed. -/
theorem shards_ofCluster (c : Cluster) (e : Exclusion) :
    (Section.ofCluster c).shards.filterMap (ListedShard.keep e.includes) =
      (listed c e).map fun s => { ListedShard.ofShard c s.1 with hosts := s.2 } := by
  have hhosts (shard : Shard) : (ListedShard.ofShard c shard).hosts = c.shardHosts shard.index :=
    rfl
  unfold Section.ofCluster listed
  dsimp only
  induction c.shards with
  | nil => rfl
  | cons shard rest ih =>
    rw [List.map_cons, List.filterMap_cons, List.map_cons, List.filter_cons, ih, ListedShard.keep,
      hhosts]
    cases (c.shardHosts shard.index).filter e.includes <;> rfl

theorem shards_ofHosts (hosts : List Host) (e : Exclusion) :
    (Section.ofHosts hosts).shards.filterMap (ListedShard.keep e.includes) =
      (hosts.filter e.includes).map ListedShard.ofHost := by
  unfold Section.ofHosts
  dsimp only
  induction hosts with
  | nil => rfl
  | cons host rest ih =>
    rw [List.map_cons, List.filterMap_cons, List.filter_cons, ih, ListedShard.keep]
    simp only [ListedShard.ofHost, List.filter_cons, List.filter_nil]
    cases e.includes host <;> rfl

/-- A section is written where a shard of it is. -/
theorem Section.pieces_keep (s : Section) (kept : Host → Bool) :
    (s.keep kept).toList.flatMap (·.node.pieces) =
      match s.shards.filterMap (ListedShard.keep kept) with
      | [] => []
      | shards => [.opening s.name] ++ shards.flatMap (·.node.pieces) ++ [.closing s.name] := by
  unfold keep
  cases s.shards.filterMap (ListedShard.keep kept) with
  | nil => rfl
  | cons first rest =>
    rw [nonempty?, Option.map_some, Option.toList_some, List.flatMap_singleton, node,
      Node.pieces_branch, List.flatMap_map]
    · rfl
    · nofun

theorem pieces_ofCluster (c : Cluster) (e : Exclusion) :
    ((Section.ofCluster c).keep e.includes).toList.flatMap (·.node.pieces) = clusterPieces e c := by
  rw [Section.pieces_keep, shards_ofCluster, clusterPieces]
  cases listed c e with
  | nil => rfl
  | cons first rest =>
    simp only [List.map_cons, List.flatMap_cons, List.flatMap_map, ListedShard.pieces_node]
    rfl

theorem pieces_ofHosts (hosts : List Host) (e : Exclusion) :
    ((Section.ofHosts hosts).keep e.includes).toList.flatMap (·.node.pieces) =
      allShardedPieces (hosts.filter e.includes) := by
  rw [Section.pieces_keep, shards_ofHosts, allShardedPieces]
  cases hosts.filter e.includes with
  | nil => rfl
  | cons first rest =>
    simp only [List.map_cons, List.flatMap_cons, List.flatMap_map]
    rfl

theorem pieces_element (i : Installation) (e : Exclusion) :
    (element (sections i e)).pieces = pieces i e := by
  have hsections : ((sections i e).map Section.node).flatMap Node.pieces =
      i.clusters.flatMap (clusterPieces e) ++ allShardedPieces (i.hosts.filter e.includes) := by
    rw [List.flatMap_map, sections, prune, List.filterMap_eq_flatMap_toList, List.flatMap_assoc,
      complete, List.flatMap_append, List.flatMap_map, List.flatMap_singleton, pieces_ofHosts]
    simp only [pieces_ofCluster]
  rw [element, Node.pieces_branch, hsections, pieces, ← List.append_assoc]
  rfl

theorem render_eq_textOf (i : Installation) (e : Exclusion) :
    render i e = textOf [element (sections i e)] := by
  rw [render_eq, textOf, List.flatMap_singleton, pieces_element]

end Written

/-- What is made of some items and of no others is made of them in their order. -/
theorem forall₂_filterMap {α β : Type} {make : α → Option β} {P : α → Prop} [DecidablePred P]
    {R : α → β → Prop} {xs : List α} (hnone : ∀ x ∈ xs, make x = none ↔ ¬P x)
    (hsome : ∀ x ∈ xs, ∀ y, make x = some y → R x y) :
    List.Forall₂ R (xs.filter P) (xs.filterMap make) := by
  induction xs with
  | nil => exact .nil
  | cons x rest ih =>
    have hrest := ih (fun y hy => hnone y (List.mem_cons_of_mem _ hy))
      (fun y hy => hsome y (List.mem_cons_of_mem _ hy))
    have hiff := hnone x (List.mem_cons_self ..)
    cases hmake : make x with
    | none =>
      rw [List.filter_cons_of_neg (by simpa using hiff.1 hmake), List.filterMap_cons_none hmake]
      exact hrest
    | some y =>
      have hx : P x := by
        by_contra hnot
        rw [hiff.2 hnot] at hmake
        cases hmake
      rw [List.filter_cons_of_pos (by simpa using hx), List.filterMap_cons_some hmake]
      exact .cons (hsome x (List.mem_cons_self ..) y hmake) hrest

section Told

variable {kept : Host → Bool}

/-- No host is lost with the shards that keep none. -/
theorem hosts_filterMap_keep (kept : Host → Bool) (shards : List ListedShard) :
    (shards.filterMap (ListedShard.keep kept)).flatMap (·.hosts) =
      (shards.flatMap (·.hosts)).filter kept := by
  induction shards with
  | nil => rfl
  | cons s rest ih =>
    rw [List.flatMap_cons, List.filter_append, ← ih]
    cases hkeep : s.keep kept with
    | none =>
      rw [List.filterMap_cons_none hkeep, ListedShard.keep_eq_none.1 hkeep]
      rfl
    | some t =>
      obtain ⟨-, rfl⟩ := ListedShard.keep_eq_some.1 hkeep
      rw [List.filterMap_cons_some hkeep, List.flatMap_cons]

theorem Section.hosts_keep {s t : Section} (h : s.keep kept = some t) :
    t.hosts = s.hosts.filter kept := by
  obtain ⟨-, rfl⟩ := keep_eq_some.1 h
  exact hosts_filterMap_keep kept s.shards

/-- A section is left out if none of its hosts is kept. -/
theorem Section.keep_eq_none_iff {s : Section} :
    s.keep kept = none ↔ s.hosts.filter kept = [] := by
  rw [keep, map_nonempty?_eq_none, hosts, ← hosts_filterMap_keep]
  constructor
  · intro hnone
    rw [hnone]
    rfl
  · -- A shard that is kept has a host, and the section has it as well.
    intro hnone
    rw [List.eq_nil_iff_forall_not_mem]
    intro t ht
    obtain ⟨s, -, hkeep⟩ := List.mem_filterMap.1 ht
    obtain ⟨hsome, rfl⟩ := ListedShard.keep_eq_some.1 hkeep
    exact hsome (List.flatMap_eq_nil_iff.1 hnone _ ht)

variable {c : Cluster} {e : Exclusion}

theorem Section.hosts_ofCluster (aligned : c.Aligned) : (ofCluster c).hosts = c.hosts := by
  rw [← aligned.flatMap_shardHosts]
  exact List.flatMap_map ..

theorem Section.hosts_ofHosts (hosts : List Host) : (ofHosts hosts).hosts = hosts :=
  (List.flatMap_map ..).trans (List.flatMap_singleton' hosts)

/-- A peer list tells about a shard which hosts are included, in the order of their replicas. Its
weight, and whether it is replicated, do not depend on which hosts are. -/
structure TellsShard (e : Exclusion) (c : Cluster) (shard : Shard) (s : ListedShard) : Prop where
  weight : s.weight = shard.weight
  internalReplication : s.internalReplication =
    shard.internalReplication.getD (decide (1 < (c.shardHosts shard.index).length))
  mem : ∀ host, host ∈ s.hosts ↔
    host ∈ c.hosts ∧ host.id.shard = shard.index ∧ e.includes host = true
  ascending : s.hosts.Pairwise fun a b => a.id.replica < b.id.replica

/-- A peer list tells about a cluster the shards that have an included host. -/
structure TellsCluster (e : Exclusion) (c : Cluster) (s : Section) : Prop where
  name : s.name = c.name
  shards : List.Forall₂ (TellsShard e c)
    (c.shards.filter fun shard =>
      ∃ host ∈ c.hosts, host.id.shard = shard.index ∧ e.includes host = true) s.shards

/-- A peer list tells about the clusters that have an included host, and behind them about every
included host as a shard of its own. -/
def Tells (e : Exclusion) (i : Installation) (sections : List Section) : Prop :=
  ∃ own all, sections = own ++ all ∧
    List.Forall₂ (TellsCluster e)
      (i.clusters.filter fun c => ∃ host ∈ c.hosts, e.includes host = true) own ∧
    all = if ∃ host ∈ i.hosts, e.includes host = true
      then [.ofHosts (i.hosts.filter e.includes)] else []

theorem filter_eq_nil_iff_not_exists {hosts : List Host} :
    hosts.filter kept = [] ↔ ¬∃ host ∈ hosts, kept host = true := by
  simp

theorem tellsShard_of_keep (aligned : c.Aligned) {shard : Shard} {s : ListedShard}
    (h : (ListedShard.ofShard c shard).keep e.includes = some s) : TellsShard e c shard s := by
  obtain ⟨-, rfl⟩ := ListedShard.keep_eq_some.1 h
  refine ⟨rfl, rfl, fun host => ?_, (aligned.ascending_shardHosts shard.index).filter _⟩
  rw [List.mem_filter, ← and_assoc]
  exact and_congr_left' aligned.mem_shardHosts

theorem tellsCluster_of_keep (aligned : c.Aligned) {s : Section}
    (h : (Section.ofCluster c).keep e.includes = some s) : TellsCluster e c s := by
  obtain ⟨-, rfl⟩ := Section.keep_eq_some.1 h
  refine ⟨rfl, ?_⟩
  change List.Forall₂ _ _ ((c.shards.map (ListedShard.ofShard c)).filterMap _)
  rw [List.filterMap_map]
  refine forall₂_filterMap (fun shard _ => ?_) fun shard _ s hs => tellsShard_of_keep aligned hs
  rw [Function.comp_apply, ListedShard.keep_eq_none, filter_eq_nil_iff_not_exists]
  simp only [ListedShard.ofShard, aligned.mem_shardHosts, and_assoc]

theorem prune_ofHosts (hosts : List Host) (e : Exclusion) :
    prune e.includes [.ofHosts hosts] =
      if ∃ host ∈ hosts, e.includes host = true then [.ofHosts (hosts.filter e.includes)]
      else [] := by
  have hnone : (Section.ofHosts hosts).keep e.includes = none ↔
      ¬∃ host ∈ hosts, e.includes host = true := by
    rw [Section.keep_eq_none_iff, Section.hosts_ofHosts, filter_eq_nil_iff_not_exists]
  split
  · next hexists =>
    obtain ⟨s, hkeep⟩ := Option.ne_none_iff_exists'.1 fun hnot => hnone.1 hnot hexists
    obtain ⟨-, rfl⟩ := Section.keep_eq_some.1 hkeep
    rw [prune, List.filterMap_cons_some hkeep, shards_ofHosts]
    rfl
  · next hnot => rw [prune, List.filterMap_cons_none (hnone.2 hnot), List.filterMap_nil]

theorem tells_sections {i : Installation} (aligned : i.Aligned) (e : Exclusion) :
    Tells e i (sections i e) := by
  refine ⟨i.clusters.filterMap fun c => (Section.ofCluster c).keep e.includes,
    prune e.includes [.ofHosts i.hosts], ?_, forall₂_filterMap (fun c hc => ?_) ?_,
    prune_ofHosts i.hosts e⟩
  · rw [sections, complete, prune, List.filterMap_append, List.filterMap_map]
    rfl
  · rw [Section.keep_eq_none_iff, Section.hosts_ofCluster (aligned.cluster c hc),
      filter_eq_nil_iff_not_exists]
  · exact fun c hc s hs => tellsCluster_of_keep (aligned.cluster c hc) hs

theorem mem_hosts_of_mem_complete {i : Installation} (aligned : i.Aligned) {s : Section}
    (hs : s ∈ complete i) {host : Host} (hhost : host ∈ s.hosts) : host ∈ i.hosts := by
  rcases List.mem_append.1 hs with hs | hs
  · obtain ⟨c, hc, rfl⟩ := List.mem_map.1 hs
    rw [Section.hosts_ofCluster (aligned.cluster c hc)] at hhost
    exact List.mem_flatMap.2 ⟨c, hc, hhost⟩
  · rw [List.mem_singleton.1 hs, Section.hosts_ofHosts] at hhost
    exact hhost

end Told

/-- A peer list is written of its sections and tells all included hosts. If more hosts are excluded,
it loses their entries and what is emptied by that, and nothing else. -/
structure Exact (i : Installation) (e : Exclusion) : Prop where
  written : render i e = textOf [element (sections i e)]
  told : Tells e i (sections i e)
  fewer : ∀ more : Exclusion,
    (∀ host ∈ i.hosts, more.includes host = true → e.includes host = true) →
      sections i more = prune more.includes (sections i e)

end PeerList

/-- Whatever flags the hosts have and whichever of them are excluded, the peer list of an accepted
installation is exact. -/
theorem peer_list_exact {chi : InstallationResource} {defaults : HostDefaults} {i : Installation}
    (h : chi.normalize defaults = .ok i) (g : Host → HostFlags) (e : Exclusion) :
    PeerList.Exact (i.mapHosts (Host.reflag g)) e := by
  have aligned : (i.mapHosts (Host.reflag g)).Aligned :=
    (InstallationResource.aligned_normalize h).1.mapHosts fun _ => rfl
  refine ⟨PeerList.render_eq_textOf _ e, PeerList.tells_sections aligned e, fun more hmore => ?_⟩
  refine (PeerList.prune_prune fun s hs host hhost => hmore host ?_).symm
  exact PeerList.mem_hosts_of_mem_complete aligned hs hhost

theorem Exclusion.includes_of_excludeIds {e : Exclusion} {ids : List HostId} {host : Host}
    (h : (e.excludeIds ids).includes host = true) : e.includes host = true := by
  simp only [includes, excludes, excludeIds, Bool.not_eq_true', Bool.or_eq_false_iff] at h ⊢
  exact ⟨h.1, by simp_all⟩

section Ragged

/-- The second replica of the first shard is to go. -/
def leavingFlags (host : Host) : HostFlags := { remove := host.id == ⟨0, 0, 1⟩ }

def leaving : Exclusion := Exclusion.none.excludeFlags { remove := true }

/-- The names of sections, and of each shard whether it is replicated and the ids of its hosts. -/
def PeerList.outline (sections : List Section) : List (String × List (Bool × List HostId)) :=
  sections.map fun s => (s.name, s.shards.map fun shard =>
    (shard.internalReplication, shard.hosts.map Host.id))

/-- A shard that keeps one of two hosts stays replicated, and a shard whose only host is excluded as
well is left out. -/
theorem peer_list_exact_ragged :
    ∃ i, ragged.normalize {} = .ok i ∧
      let j := i.mapHosts (Host.reflag leavingFlags)
      let more := leaving.excludeIds [⟨0, 1, 0⟩]
      PeerList.sections j more = PeerList.prune more.includes (PeerList.sections j leaving) ∧
      PeerList.outline (PeerList.sections j more) =
        [("rows", [(true, [⟨0, 0, 0⟩]), (false, [⟨0, 2, 0⟩])]),
          ("columns", [(true, [⟨1, 0, 0⟩, ⟨1, 0, 1⟩]), (false, [⟨1, 1, 1⟩]), (false, [⟨1, 2, 1⟩])]),
          ("all-sharded", [(false, [⟨0, 0, 0⟩]), (false, [⟨0, 2, 0⟩]), (false, [⟨1, 0, 0⟩]),
            (false, [⟨1, 0, 1⟩]), (false, [⟨1, 1, 1⟩]), (false, [⟨1, 2, 1⟩])])] := by
  obtain ⟨i, hi, -, -⟩ := exists_normalize_ragged
  have hexact := peer_list_exact hi leavingFlags leaving
  refine ⟨i, hi, hexact.fewer _ fun host _ hmore => Exclusion.includes_of_excludeIds hmore, ?_⟩
  have hrun : (ragged.normalize {}).map (fun i =>
      PeerList.outline (PeerList.sections (i.mapHosts (Host.reflag leavingFlags))
        (leaving.excludeIds [⟨0, 1, 0⟩]))) = .ok _ := rfl
  rw [hi] at hrun
  exact Except.ok.inj hrun

end Ragged

end ShardOperator
