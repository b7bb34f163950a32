import ShardOperator.Desired.Budgets
import ShardOperator.Proofs.Desired.Belonging
import ShardOperator.Proofs.Desired.Claiming
import ShardOperator.Proofs.Desired.SharedNames
import ShardOperator.Proofs.Files.Peers

namespace ShardOperator

namespace Labels

variable {selector labels : Labels}

theorem selects_insert {key value : String} (hfresh : selector.find? key = none) :
    Selects (SortedMap.insert selector key value) labels ↔
      selector.Selects labels ∧ labels.find? key = some value := by
  constructor
  · intro h
    refine ⟨fun other entry hentry => h other entry ?_, h key value ?_⟩
    · have hne : key ≠ other := by
        rintro rfl
        rw [hfresh] at hentry
        cases hentry
      rw [SortedMap.find?_insert, if_neg hne, hentry]
    · rw [SortedMap.find?_insert, if_pos rfl]
  · rintro ⟨hrest, hkey⟩ other entry hentry
    rw [SortedMap.find?_insert] at hentry
    split at hentry
    · next heq => rw [← heq, hkey, hentry]
    · exact hrest other entry hentry

theorem find?_ofCluster (name cluster key : String) :
    (ofCluster name cluster).find? key =
      if Labels.cluster = key then some cluster else (ofInstallation name).find? key :=
  SortedMap.find?_insert ..

theorem selects_ofCluster {name cluster : String} :
    (ofCluster name cluster).Selects labels ↔
      labels.Mark name ∧ labels.find? Labels.cluster = some cluster := by
  rw [ofCluster, selects_insert, selects_ofInstallation]
  rw [find?_ofInstallation]
  rfl

/-- The keys that selectors look under. -/
def scopeKeys : List String := [app, installation, cluster, shard, replica]

end Labels

theorem Cluster.selects_shardSelector {c : Cluster} {s : Shard} {labels : Labels} :
    (c.shardSelector s).Selects labels ↔
      c.selector.Selects labels ∧ labels.find? Labels.shard = some s.name := by
  refine Labels.selects_insert ?_
  rw [selector, Labels.find?_ofCluster, Labels.find?_ofInstallation]
  rfl

namespace HostAddress

variable {a o : HostAddress} {labels : Labels} {key value : String}

theorem find?_selector (a : HostAddress) (key : String) :
    a.selector.find? key =
      if Labels.replica = key then some a.replica else if Labels.shard = key then some a.shard
      else (Labels.ofCluster a.installation a.cluster).find? key := by
  simp only [selector, SortedMap.find?_insert]

theorem mem_scopeKeys (h : a.selector.find? key = some value) : key ∈ Labels.scopeKeys := by
  rw [find?_selector, Labels.find?_ofCluster, Labels.find?_ofInstallation] at h
  unfold Labels.scopeKeys
  grind

/-- A host has the labels that its selector looks for, and that of its namespace. -/
theorem selects_labels (a : HostAddress) : a.selector.Selects a.labels := by
  intro key value h
  have hne : Labels.ns ≠ key := by
    rintro rfl
    exact absurd (mem_scopeKeys h) (by decide)
  rw [HostAddress.labels, SortedMap.find?_insert, if_neg hne, h]

theorem selects_selector :
    a.selector.Selects labels ↔
      (Labels.ofCluster a.installation a.cluster).Selects labels ∧
        labels.find? Labels.shard = some a.shard ∧
          labels.find? Labels.replica = some a.replica := by
  have hshard : (Labels.ofCluster a.installation a.cluster).find? Labels.shard = none := by
    rw [Labels.find?_ofCluster, Labels.find?_ofInstallation]
    rfl
  have hreplica : ((Labels.ofCluster a.installation a.cluster).insert Labels.shard a.shard).find?
      Labels.replica = none := by
    rw [SortedMap.find?_insert, Labels.find?_ofCluster, Labels.find?_ofInstallation]
    rfl
  rw [selector, Labels.selects_insert hreplica, Labels.selects_insert hshard, and_assoc]

section Own

variable (own : a.selector.Selects labels)

include own

/-- Labels that are selected for a host are selected for no other installation. -/
theorem mark_iff {name : String} : labels.Mark name ↔ a.installation = name := by
  obtain ⟨hcluster, -⟩ := selects_selector.1 own
  obtain ⟨hmark, -⟩ := Labels.selects_ofCluster.1 hcluster
  constructor
  · intro h
    exact Option.some.inj (hmark.2.symm.trans h.2)
  · rintro rfl
    exact hmark

theorem selects_ofCluster_iff {name cluster : String} :
    (Labels.ofCluster name cluster).Selects labels ↔
      a.installation = name ∧ a.cluster = cluster := by
  obtain ⟨hcluster, -⟩ := selects_selector.1 own
  obtain ⟨-, hown⟩ := Labels.selects_ofCluster.1 hcluster
  rw [Labels.selects_ofCluster, mark_iff own, hown, Option.some.injEq]

theorem selects_shardSelector_iff {c : Cluster} {s : Shard} :
    (c.shardSelector s).Selects labels ↔
      (a.installation = c.installation ∧ a.cluster = c.name) ∧ a.shard = s.name := by
  obtain ⟨-, hown, -⟩ := selects_selector.1 own
  rw [Cluster.selects_shardSelector, Cluster.selector, selects_ofCluster_iff own, hown,
    Option.some.injEq]

theorem selects_selector_iff :
    o.selector.Selects labels ↔
      (a.installation = o.installation ∧ a.cluster = o.cluster) ∧
        a.shard = o.shard ∧ a.replica = o.replica := by
  obtain ⟨-, hshard, hreplica⟩ := selects_selector.1 own
  rw [selects_selector, selects_ofCluster_iff own, hshard, hreplica, Option.some.injEq,
    Option.some.injEq]

end Own

end HostAddress

namespace Installation

variable {i : Installation} {host other : Host} {c : Cluster}

/-- A host tells its cluster by name. -/
theorem Named.mem_hosts_iff (named : i.Named) (hhost : host ∈ i.hosts) (hc : c ∈ i.clusters) :
    host ∈ c.hosts ↔ host.address.cluster = c.name := by
  constructor
  · intro hin
    exact ((named.cluster c hc).of_mem hin).1
  · intro hname
    obtain ⟨d, hd, hin, heq⟩ := named.cluster_mem hhost
    obtain rfl := List.inj_on_of_nodup_map named.clusters hc hd (hname.symm.trans heq)
    exact hin

/-- Within its cluster a host tells its shard by name. -/
theorem Named.mem_shardHosts_iff (named : i.Named) (aligned : i.Aligned) (hc : c ∈ i.clusters)
    (hin : host ∈ c.hosts) {s : Shard} (hs : s ∈ c.shards) :
    host ∈ c.shardHosts s.index ↔ host.address.shard = s.name := by
  have hplace := (aligned.cluster c hc).getElem?_index hs
  rw [Cluster.mem_shardHosts_iff]
  constructor
  · rintro ⟨r, hr⟩
    obtain ⟨-, shard, -, hshard, -, hname, -⟩ := (named.cluster c hc).place hr
    obtain rfl := Option.some.inj (hplace.symm.trans hshard)
    exact hname
  · intro hname
    obtain ⟨n, r, hr⟩ := Cluster.mem_hosts_iff.1 hin
    obtain ⟨-, shard, -, hshard, -, hown, -⟩ := (named.cluster c hc).place hr
    obtain ⟨hshards, -⟩ := Cluster.nodup_of_checkNames (named.checked c hc)
    obtain rfl := Cluster.index_inj hshards hshard hplace (hown.symm.trans hname)
    exact ⟨r, hr⟩

theorem Named.eq_iff (named : i.Named) (hhost : host ∈ i.hosts) (hother : other ∈ i.hosts) :
    other = host ↔ host.address.cluster = other.address.cluster ∧
      host.address.shard = other.address.shard ∧
        host.address.replica = other.address.replica := by
  constructor
  · rintro rfl
    exact ⟨rfl, rfl, rfl⟩
  · rintro ⟨hcluster, hshard, hreplica⟩
    obtain ⟨c, hc, hin, hname⟩ := named.cluster_mem hhost
    have hin' : other ∈ c.hosts := by
      rw [named.mem_hosts_iff hother hc, ← hcluster, hname]
    exact (named.cluster c hc).host_inj (named.checked c hc) hin' hin hshard.symm hreplica.symm

end Installation

/-- The labels of the pods that a workload runs. -/
def Resource.podLabels? (workload : Resource .statefulSet) : Option Labels := do
  let spec ← workload.body.spec
  let metadata ← spec.template.metadata
  metadata.labels

/-- The labels that a template gives its pods. -/
def PodTemplate.labels (t : PodTemplate) : Labels := ((t.metadata.getD {}).labels).getD .empty

/-- No pod template sets a label that selectors look for. -/
def Templates.SparePodLabels (templates : Templates) : Prop :=
  ∀ t ∈ templates.podTemplates, ∀ key ∈ Labels.scopeKeys, t.labels.find? key = none

namespace Blueprint

variable {b : Blueprint} {host : Host} {key value : String}

/-- The labels that the host's template gives its pod. -/
def templateLabels (b : Blueprint) (host : Host) : Labels :=
  ((b.podTemplate? host).map (·.labels)).getD .empty

theorem selector_workloadSpec (b : Blueprint) (host : Host) :
    (b.workloadSpec host).selector = { matchLabels := some host.address.selector } :=
  congrArg (·.selector) (b.outline_workloadSpec host)

def podLabels (b : Blueprint) (host : Host) : Labels := (b.podMetadata host).labels.getD .empty

theorem podLabels?_workload (b : Blueprint) (host : Host) :
    (b.workload host).podLabels? = some (b.podLabels host) := by
  have hmetadata : (b.workloadSpec host).template.metadata = some (b.podMetadata host) :=
    congrArg (·.template.metadata) (b.outline_workloadSpec host)
  change ((b.workloadSpec host).template.metadata.bind (·.labels)) = _
  rw [hmetadata]
  rfl

/-- The labels of a pod: those of its template, and of its host's what the template leaves open. -/
theorem find?_podLabels (b : Blueprint) (host : Host) (key : String) :
    (b.podLabels host).find? key =
      ((b.templateLabels host).find? key).or (host.address.labels.find? key) := by
  refine (Labels.find?_keepExisting ..).trans ?_
  unfold templateLabels
  cases b.podTemplate? host <;> rfl

theorem templateLabels_spare (spare : b.installation.templates.SparePodLabels)
    (hkey : key ∈ Labels.scopeKeys) : (b.templateLabels host).find? key = none := by
  unfold templateLabels
  cases ht : b.podTemplate? host with
  | none => rfl
  | some t =>
    obtain ⟨_, -, hfind⟩ := Option.bind_eq_some_iff.1 ht
    exact spare t (List.mem_of_find?_eq_some hfind) key hkey

/-- An entry of the selector is missing exactly where the template has its own value for the key. -/
theorem find?_podLabels_iff (hkey : host.address.selector.find? key = some value) :
    (b.podLabels host).find? key = some value ↔
      ∀ own, (b.templateLabels host).find? key = some own → own = value := by
  rw [find?_podLabels, host.address.selects_labels key value hkey]
  cases (b.templateLabels host).find? key <;> simp

/-- Where the template leaves the keys open, the pod has the labels of its host under them. -/
theorem selects_podLabels (spare : b.installation.templates.SparePodLabels) :
    host.address.selector.Selects (b.podLabels host) := by
  intro key value hkey
  refine (find?_podLabels_iff hkey).2 fun own hown => ?_
  rw [templateLabels_spare spare (HostAddress.mem_scopeKeys hkey)] at hown
  cases hown

end Blueprint

/-- One installation whose hosts take their pods from a template with labels. -/
def templated (clusters : List ClusterSpec) (labels : Labels) : InstallationResource where
  metadata := { ns := some "ns", name := some "demo", uid := some "uid-1" }
  spec := {
    defaults := some { templates := some { podTemplate := some "pod" } }
    configuration := { clusters }
    templates := some {
      podTemplates := [{ name := "pod", metadata := some { labels := some labels } }] } }

/-- Selectors tell their scope. Where pod templates leave the selectors' labels alone, the pod of a
host is selected for its installation, for its cluster and its shard but for no others, and for no
host but itself. The budget of a cluster selects with the cluster. -/
theorem selectors_select_scope {chi : InstallationResource} {defaults : HostDefaults}
    {b : Blueprint} (accepted : chi.normalize defaults = .ok b.installation)
    (spare : b.installation.templates.SparePodLabels) {host : Host}
    (hhost : host ∈ b.installation.hosts) :
    ∃ labels, (b.workload host).podLabels? = some labels ∧
      b.installation.selector.Selects labels ∧
      (∀ c ∈ b.installation.clusters,
        (∃ spec, (b.budget c).body.spec = some spec ∧
          spec.selector = some { matchLabels := some c.selector }) ∧
        (c.selector.Selects labels ↔ host ∈ c.hosts) ∧
        ∀ s ∈ c.shards, (c.shardSelector s).Selects labels ↔ host ∈ c.shardHosts s.index) ∧
      ∀ other ∈ b.installation.hosts, other.address.selector.Selects labels ↔ other = host := by
  obtain ⟨aligned, -⟩ := InstallationResource.aligned_normalize accepted
  obtain ⟨placed, -⟩ := InstallationResource.normalize_spec accepted
  have named := InstallationResource.named_normalize accepted
  have own : host.address.selector.Selects (b.podLabels host) := Blueprint.selects_podLabels spare
  have hinst := (placed.host host hhost).2
  refine ⟨b.podLabels host, b.podLabels?_workload host, ?_,
    fun c hc => ⟨⟨_, rfl, rfl⟩, ?_, fun s hs => ?_⟩, fun other hother => ?_⟩
  · rw [Installation.selector, Labels.selects_ofInstallation, HostAddress.mark_iff own, hinst]
  · have hsame := hinst.trans (placed.cluster c hc).2.symm
    rw [Cluster.selector, HostAddress.selects_ofCluster_iff own, and_iff_right hsame,
      named.mem_hosts_iff hhost hc]
  · have hsame := hinst.trans (placed.cluster c hc).2.symm
    rw [HostAddress.selects_shardSelector_iff own, and_iff_right hsame,
      ← named.mem_hosts_iff hhost hc]
    constructor
    · rintro ⟨hin, hshard⟩
      exact (named.mem_shardHosts_iff aligned hc hin hs).2 hshard
    · intro hin
      have hcluster := Cluster.mem_hosts_of_mem_shardHosts hin
      exact ⟨hcluster, (named.mem_shardHosts_iff aligned hc hcluster hs).1 hin⟩
  · have hsame := hinst.trans (placed.host other hother).2.symm
    rw [HostAddress.selects_selector_iff own, and_iff_right hsame, named.eq_iff hhost hother]

/-- The general result at two hosts whose workloads have one name. -/
theorem selectors_select_scope_joined :
    ∃ i a b labels, (templated dashed.spec.configuration.clusters
        (SortedMap.ofList [("team", "data")])).normalize {} = .ok i ∧
      i.hosts = [a, b] ∧ a ≠ b ∧ a.address.workloadName = b.address.workloadName ∧
      i.templates.SparePodLabels ∧
      (⟨i, {}, .server⟩ : Blueprint).templateLabels a = SortedMap.ofList [("team", "data")] ∧
      ((⟨i, {}, .server⟩ : Blueprint).workload a).podLabels? = some labels ∧
      a.address.selector.Selects labels ∧ ¬b.address.selector.Selects labels := by
  obtain ⟨i, a, b, hi, hhosts, hclusters, hnames, htemplates, hteam⟩ :
      ∃ i a b, (templated dashed.spec.configuration.clusters
          (SortedMap.ofList [("team", "data")])).normalize {} = .ok i ∧ i.hosts = [a, b] ∧
        a.address.cluster ≠ b.address.cluster ∧
        a.address.workloadName = b.address.workloadName ∧
        i.templates.podTemplates.map (·.labels) = [SortedMap.ofList [("team", "data")]] ∧
        (⟨i, {}, .server⟩ : Blueprint).templateLabels a = SortedMap.ofList [("team", "data")] :=
    ⟨_, _, _, rfl, rfl, by decide, rfl, rfl, rfl⟩
  have hne : a ≠ b := fun h => hclusters (h ▸ rfl)
  have hspare : i.templates.SparePodLabels := by
    intro t ht key hkey
    have hmem : t.labels ∈ i.templates.podTemplates.map (·.labels) := List.mem_map_of_mem ht
    rw [htemplates, List.mem_singleton] at hmem
    rw [hmem]
    revert key
    decide
  obtain ⟨labels, hlabels, -, -, hselect⟩ :=
    @selectors_select_scope _ {} ⟨i, {}, .server⟩ hi hspare a (hhosts ▸ List.mem_cons_self ..)
  refine ⟨i, a, b, labels, hi, hhosts, hne, hnames, hspare, hteam, hlabels, ?_, fun h => hne ?_⟩
  · exact (hselect a (hhosts ▸ List.mem_cons_self ..)).2 rfl
  · exact ((hselect b (hhosts ▸ List.mem_cons_of_mem _ (List.mem_singleton_self _))).1 h).symm

/-- The workload of a host selects its pods where their template sets none of the keys that it looks
under to another value, and only there. -/
theorem workload_selects_pods_iff (b : Blueprint) (host : Host) :
    ∃ spec labels, (b.workload host).body = { spec := some spec } ∧
      spec.selector = { matchLabels := some host.address.selector } ∧
      (b.workload host).podLabels? = some labels ∧
      (∀ key value, host.address.selector.find? key = some value →
        (labels.find? key = some value ↔
          ∀ own, (b.templateLabels host).find? key = some own → own = value)) ∧
      (host.address.selector.Selects labels ↔
        ∀ key value, host.address.selector.find? key = some value →
          ∀ own, (b.templateLabels host).find? key = some own → own = value) := by
  refine ⟨b.workloadSpec host, b.podLabels host, rfl, b.selector_workloadSpec host,
    b.podLabels?_workload host, fun key value => Blueprint.find?_podLabels_iff, ?_⟩
  exact forall₃_congr fun key value => Blueprint.find?_podLabels_iff

/-- A template with its own value under a key that the workload looks under is accepted. -/
theorem workload_misses_labelled_pods :
    ∃ i host spec labels, (templated [{ name := "main" }]
        (SortedMap.ofList [(Labels.installation, "custom")])).normalize {} = .ok i ∧
      i.hosts = [host] ∧
      ((⟨i, {}, .server⟩ : Blueprint).workload host).body = { spec := some spec } ∧
      spec.selector = { matchLabels := some host.address.selector } ∧
      ((⟨i, {}, .server⟩ : Blueprint).workload host).podLabels? = some labels ∧
      host.address.selector.find? Labels.installation = some "demo" ∧
      labels.find? Labels.installation = some "custom" ∧
      ¬host.address.selector.Selects labels := by
  refine ⟨_, _, _, _, rfl, rfl, rfl, rfl, rfl, rfl, rfl, fun h => ?_⟩
  exact absurd (h Labels.installation "demo" rfl) (by decide)

end ShardOperator
