import ShardOperator.Proofs.Files.Sections

namespace ShardOperator

namespace PeerList

open Xml

/-- The elements right below that of a peer list. -/
def entries (i : Installation) (e : Exclusion) : List Node := (element (sections i e)).children

/-- What is looked up under a tag: the hosts of the elements that have it. -/
def hostsUnder (tag : String) (nodes : List Node) : List String :=
  (nodes.filter (·.tag = tag)).flatMap (Node.values "host")

variable {kept : Host → Bool} {i : Installation} {e : Exclusion}

theorem Section.name_keep {s t : Section} (h : s.keep kept = some t) : t.name = s.name := by
  obtain ⟨-, rfl⟩ := keep_eq_some.1 h
  rfl

theorem hosts_node (s : Section) :
    s.node.values "host" = s.hosts.map (·.address.workloadName) := by
  have hreplica (host : Host) :
      (replicaNode host).values "host" = [host.address.workloadName] := rfl
  have hshard (shard : ListedShard) :
      shard.node.values "host" = shard.hosts.map (·.address.workloadName) := by
    have hweight :
        (shard.weight.map fun n => Node.leaf "weight" (toString n.toNat)).toList.flatMap
          (Node.values "host") = [] := by
      cases shard.weight <;> rfl
    rw [ListedShard.node, Node.values_branch, List.flatMap_append, List.flatMap_append, hweight,
      List.flatMap_map, List.map_eq_flatMap]
    simp only [hreplica]
    rfl
  rw [Section.node, Node.values_branch, List.flatMap_map, Section.hosts, List.map_flatMap]
  simp only [hshard]

theorem hostsUnder_map_node (tag : String) (sections : List Section) :
    hostsUnder tag (sections.map Section.node) =
      ((sections.filter (·.name = tag)).flatMap Section.hosts).map (·.address.workloadName) := by
  have hfilter : (sections.map Section.node).filter (·.tag = tag) =
      (sections.filter (·.name = tag)).map Section.node := List.filter_map ..
  rw [hostsUnder, hfilter, List.flatMap_map, List.map_flatMap]
  simp only [hosts_node]

/-- Under a name are the hosts that were there before, as far as they are kept. -/
theorem hosts_filter_prune (tag : String) (sections : List Section) :
    ((prune kept sections).filter (·.name = tag)).flatMap Section.hosts =
      ((sections.filter (·.name = tag)).flatMap Section.hosts).filter kept := by
  unfold prune
  induction sections with
  | nil => rfl
  | cons s rest ih =>
    cases hkeep : s.keep kept with
    | none =>
      have hnone := Section.keep_eq_none_iff.1 hkeep
      rw [List.filterMap_cons_none hkeep, ih, List.filter_cons]
      split
      · rw [List.flatMap_cons, List.filter_append, hnone, List.nil_append]
      · rfl
    | some t =>
      rw [List.filterMap_cons_some hkeep, List.filter_cons, List.filter_cons,
        Section.name_keep hkeep]
      split
      · rw [List.flatMap_cons, List.flatMap_cons, List.filter_append, ih, Section.hosts_keep hkeep]
      · exact ih

theorem filter_name {clusters : List Cluster} (named : (clusters.map (·.name)).Nodup) {c : Cluster}
    (hc : c ∈ clusters) : clusters.filter (·.name = c.name) = [c] := by
  induction clusters with
  | nil => exact absurd hc List.not_mem_nil
  | cons d rest ih =>
    obtain ⟨hfresh, hrest⟩ := List.nodup_cons.1 named
    rcases List.mem_cons.1 hc with rfl | hc
    · have hothers : rest.filter (·.name = c.name) = [] :=
        List.filter_eq_nil_iff.2 fun other hother hname =>
          hfresh (List.mem_map.2 ⟨other, hother, of_decide_eq_true hname⟩)
      rw [List.filter_cons_of_pos (by simp), hothers]
    · have hne : d.name ≠ c.name := fun heq => hfresh (List.mem_map.2 ⟨c, hc, heq.symm⟩)
      rw [List.filter_cons_of_neg (by simpa using hne), ih hrest hc]

/-- The name of a cluster is that of one section, and perhaps that of the section of all hosts. -/
theorem filter_complete (named : (i.clusters.map (·.name)).Nodup) {c : Cluster}
    (hc : c ∈ i.clusters) :
    (complete i).filter (·.name = c.name) =
      Section.ofCluster c :: if c.name = allSharded then [.ofHosts i.hosts] else [] := by
  have hclusters : (i.clusters.map Section.ofCluster).filter (·.name = c.name) =
      (i.clusters.filter (·.name = c.name)).map Section.ofCluster := List.filter_map ..
  have hall : [Section.ofHosts i.hosts].filter (·.name = c.name) =
      if c.name = allSharded then [.ofHosts i.hosts] else [] := by
    rw [List.filter_cons, List.filter_nil]
    simp only [Section.ofHosts, decide_eq_true_eq, eq_comm (a := allSharded)]
  rw [complete, List.filter_append, hclusters, filter_name named hc, hall]
  rfl

theorem names_sections (aligned : i.Aligned) (e : Exclusion) :
    (sections i e).map (·.name) =
      (i.clusters.filter fun c => ∃ host ∈ c.hosts, e.includes host = true).map (·.name) ++
        if ∃ host ∈ i.hosts, e.includes host = true then [allSharded] else [] := by
  obtain ⟨own, all, hsections, hown, hall⟩ := tells_sections aligned e
  have hnames : own.map (·.name) =
      (i.clusters.filter fun c => ∃ host ∈ c.hosts, e.includes host = true).map (·.name) := by
    rw [← List.forall₂_eq_eq_eq, List.forall₂_map_left_iff, List.forall₂_map_right_iff]
    exact hown.flip.imp fun _ _ told => told.name
  rw [hsections, hall, List.map_append, hnames]
  split <;> rfl

/-- The elements of a peer list have tags of their own where no cluster with an included host has
the name of the section of all hosts. A cluster of that name is found with all hosts, any other with
its own. -/
structure Tagged (i : Installation) (e : Exclusion) : Prop where
  written : render i e = textOf [element (sections i e)]
  distinct : ((entries i e).map Node.tag).Nodup ↔
    ∀ c ∈ i.clusters, c.name = allSharded → ∀ host ∈ c.hosts, e.includes host = false
  found : ∀ c ∈ i.clusters, hostsUnder c.name (entries i e) =
    (c.hosts.filter e.includes ++
      if c.name = allSharded then i.hosts.filter e.includes else []).map (·.address.workloadName)

theorem tagged (aligned : i.Aligned) (named : (i.clusters.map (·.name)).Nodup) (e : Exclusion) :
    Tagged i e := by
  refine ⟨render_eq_textOf i e, ?_, fun c hc => ?_⟩
  · have htags : (entries i e).map Node.tag = (sections i e).map (·.name) :=
      List.map_map ..
    have hown : ((i.clusters.filter fun c =>
        ∃ host ∈ c.hosts, e.includes host = true).map (·.name)).Nodup :=
      named.sublist (List.filter_sublist.map _)
    rw [htags, names_sections aligned, List.nodup_append]
    constructor
    · rintro ⟨-, -, happart⟩ c hc hname host hhost
      by_contra hincluded
      rw [Bool.not_eq_false] at hincluded
      have hall : ∃ host ∈ i.hosts, e.includes host = true :=
        ⟨host, List.mem_flatMap.2 ⟨c, hc, hhost⟩, hincluded⟩
      have hlisted : c ∈ i.clusters.filter fun c => ∃ host ∈ c.hosts, e.includes host = true :=
        List.mem_filter.2 ⟨hc, decide_eq_true ⟨host, hhost, hincluded⟩⟩
      rw [if_pos hall] at happart
      exact happart c.name (List.mem_map_of_mem hlisted) allSharded (List.mem_singleton_self _) hname
    · intro hnone
      refine ⟨hown, by split <;> simp, fun name hlisted other hall heq => ?_⟩
      obtain ⟨c, hfound, rfl⟩ := List.mem_map.1 hlisted
      obtain ⟨hc, hincluded⟩ := List.mem_filter.1 hfound
      obtain ⟨host, hhost, hincluded⟩ := of_decide_eq_true hincluded
      have hname : other = allSharded := by
        split at hall
        · exact List.mem_singleton.1 hall
        · cases hall
      rw [hnone c hc (heq.trans hname) host hhost] at hincluded
      cases hincluded
  · have hsections : (entries i e) = (sections i e).map Section.node := rfl
    rw [hsections, hostsUnder_map_node, sections, hosts_filter_prune, filter_complete named hc,
      List.flatMap_cons, Section.hosts_ofCluster (aligned.cluster c hc), List.filter_append]
    split
    · rw [List.flatMap_singleton, Section.hosts_ofHosts]
    · rfl

end PeerList

/-- Whatever flags the hosts have and whichever of them are excluded, the tags in the peer list of
an accepted installation are distinct just where none of its clusters comes into the place of the
section of all hosts. -/
theorem section_tags_distinct_iff {chi : InstallationResource} {defaults : HostDefaults}
    {i : Installation} (h : chi.normalize defaults = .ok i) (g : Host → HostFlags)
    (e : Exclusion) : PeerList.Tagged (i.mapHosts (Host.reflag g)) e := by
  refine PeerList.tagged ?_ ?_ e
  · exact (InstallationResource.aligned_normalize h).1.mapHosts fun _ => rfl
  · have hnames : (i.mapHosts (Host.reflag g)).clusters.map (·.name) = i.clusters.map (·.name) :=
      List.map_map ..
    rw [hnames]
    exact (InstallationResource.named_normalize h).clusters

/-- A cluster is found with its own hosts, less the one that is to go. -/
theorem section_tags_distinct_ragged :
    ∃ i, ragged.normalize {} = .ok i ∧
      let entries := PeerList.entries (i.mapHosts (Host.reflag leavingFlags)) leaving
      (entries.map Xml.Node.tag).Nodup ∧
      PeerList.hostsUnder "rows" entries =
        ["chi-demo-rows-0-0", "chi-demo-rows-east-0", "chi-demo-rows-2-0"] := by
  obtain ⟨i, hi, -, -⟩ := exists_normalize_ragged
  have htagged := section_tags_distinct_iff hi leavingFlags leaving
  have hrun : (ragged.normalize {}).map (fun i =>
      (i.mapHosts (Host.reflag leavingFlags)).clusters.map fun c =>
        (c.name, (c.hosts.filter leaving.includes).map (·.address.workloadName))) =
      .ok [("rows", ["chi-demo-rows-0-0", "chi-demo-rows-east-0", "chi-demo-rows-2-0"]),
        ("columns", ["chi-demo-columns-0-left", "chi-demo-columns-0-1", "chi-demo-columns-1-1",
          "chi-demo-columns-2-1"])] := rfl
  rw [hi] at hrun
  obtain ⟨rows, rest, hlist, hrows, hrest⟩ := List.map_eq_cons_iff.1 (Except.ok.inj hrun)
  obtain ⟨columns, hrest, hcolumns⟩ := List.map_eq_singleton_iff.1 hrest
  obtain ⟨hrowsName, hrowsHosts⟩ := Prod.mk.inj hrows
  obtain ⟨hcolumnsName, -⟩ := Prod.mk.inj hcolumns
  refine ⟨i, hi, htagged.distinct.2 fun c hc hname => ?_, ?_⟩
  · rw [hlist, hrest, List.mem_cons, List.mem_singleton] at hc
    rcases hc with rfl | rfl
    · exact absurd (hrowsName.symm.trans hname) (by decide)
    · exact absurd (hcolumnsName.symm.trans hname) (by decide)
  · have hfound := htagged.found rows (hlist ▸ List.mem_cons_self ..)
    rw [hrowsName, if_neg (by decide), List.append_nil, hrowsHosts] at hfound
    exact hfound

/-- The first cluster has the name of the section of all hosts. -/
def shadowing : InstallationResource where
  metadata := { ns := some "ns", name := some "demo", uid := some "uid-1" }
  spec := { configuration := { clusters := [{ name := PeerList.allSharded }, { name := "main" }] } }

/-- An accepted installation whose peer list has two elements of one tag. Under the name of its
first cluster the host of the second is found as well. -/
theorem section_tags_shared :
    ∃ i c, shadowing.normalize {} = .ok i ∧ c ∈ i.clusters ∧
      ¬((PeerList.entries i .none).map Xml.Node.tag).Nodup ∧
      PeerList.hostsUnder c.name (PeerList.entries i .none) ≠
        c.hosts.map (·.address.workloadName) := by
  have hrun : (shadowing.normalize {}).map (fun i => ((PeerList.entries i .none).map Xml.Node.tag,
      i.clusters.map fun c => (PeerList.hostsUnder c.name (PeerList.entries i .none),
        c.hosts.map (·.address.workloadName)))) =
      .ok (["all-sharded", "main", "all-sharded"],
        [(["chi-demo-all-sharded-0-0", "chi-demo-all-sharded-0-0", "chi-demo-main-0-0"],
          ["chi-demo-all-sharded-0-0"]), (["chi-demo-main-0-0"], ["chi-demo-main-0-0"])]) := rfl
  cases hnormal : shadowing.normalize {} with
  | error e =>
    rw [hnormal] at hrun
    cases hrun
  | ok i =>
    rw [hnormal] at hrun
    obtain ⟨htags, hclusters⟩ := Prod.mk.inj (Except.ok.inj hrun)
    obtain ⟨c, rest, hlist, hc, -⟩ := List.map_eq_cons_iff.1 hclusters
    obtain ⟨hunder, hhosts⟩ := Prod.mk.inj hc
    refine ⟨i, c, rfl, hlist ▸ List.mem_cons_self .., ?_, ?_⟩
    · rw [htags]
      decide
    · rw [hunder, hhosts]
      decide

end ShardOperator
