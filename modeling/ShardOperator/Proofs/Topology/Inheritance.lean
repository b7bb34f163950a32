import ShardOperator.Proofs.Settings.Made
import ShardOperator.Proofs.Topology.Matrix

namespace ShardOperator

/-- Each name is that of the first level that sets it. -/
def TemplateNames.firstOf (levels : List TemplateNames) : TemplateNames where
  hostTemplate := levels.findSome? (·.hostTemplate)
  podTemplate := levels.findSome? (·.podTemplate)
  dataVolumeClaimTemplate := levels.findSome? (·.dataVolumeClaimTemplate)
  logVolumeClaimTemplate := levels.findSome? (·.logVolumeClaimTemplate)
  serviceTemplate := levels.findSome? (·.serviceTemplate)
  clusterServiceTemplate := levels.findSome? (·.clusterServiceTemplate)
  shardServiceTemplate := levels.findSome? (·.shardServiceTemplate)
  replicaServiceTemplate := levels.findSome? (·.replicaServiceTemplate)

theorem findSome?_cons_eq_or {α β : Type} (f : α → Option β) (first : α) (rest : List α) :
    (first :: rest).findSome? f = (f first).or (rest.findSome? f) := by
  rw [List.findSome?_cons]
  cases f first with
  | none => rfl
  | some value => rfl

theorem TemplateNames.firstOf_cons (own : TemplateNames) (above : List TemplateNames) :
    firstOf (own :: above) = own.merge (firstOf above) .fillEmpty := by
  simp only [firstOf, findSome?_cons_eq_or]
  rfl

theorem TemplateNames.firstOf_singleton (own : TemplateNames) : firstOf [own] = own := by
  simp only [firstOf, findSome?_cons_eq_or, List.findSome?_nil, Option.or_none]

theorem Settings.find?_inheritHostFiles (own above : Settings) (path : String) :
    (own.inheritHostFiles above).entries.find? path =
      (own.entries.find? path).or
        (if Section.isHost path then above.entries.find? path else none) := by
  rw [inheritHostFiles, mergeIf_eq, SortedMap.find?_fill, SortedMap.find?_filter_keys]

namespace Parent

/-- A level with what it takes over from the one above it. -/
def inherit (own above : Parent) : Parent where
  settings := own.settings.merge above.settings .fillEmpty
  files := own.files.inheritHostFiles above.files
  templates := own.templates.merge above.templates .fillEmpty

/-- A level with what comes down to it from all those above it, the nearest first. -/
def chain (own : Parent) : List Parent → Parent
  | [] => own
  | above :: rest => own.inherit (above.chain rest)

variable (own : Parent) (above : List Parent) (path : String)

theorem settings_chain : (own.chain above).settings.entries.find? path =
    (own :: above).findSome? (·.settings.entries.find? path) := by
  induction above generalizing own with
  | nil => rw [findSome?_cons_eq_or, List.findSome?_nil, Option.or_none, chain]
  | cons next rest ih =>
    rw [findSome?_cons_eq_or, ← ih]
    exact Settings.find?_merge ..

theorem templates_chain :
    (own.chain above).templates = .firstOf ((own :: above).map (·.templates)) := by
  induction above generalizing own with
  | nil => exact (TemplateNames.firstOf_singleton own.templates).symm
  | cons next rest ih =>
    rw [List.map_cons, TemplateNames.firstOf_cons, ← ih]
    rfl

/-- Files outside the host section stay on the level that declares them. -/
theorem files_chain : (own.chain above).files.entries.find? path =
    (own.files.entries.find? path).or
      (if Settings.Section.isHost path then above.findSome? (·.files.entries.find? path)
        else none) := by
  induction above generalizing own with
  | nil => rw [List.findSome?_nil, ite_self, Option.or_none, chain]
  | cons next rest ih =>
    refine (Settings.find?_inheritHostFiles ..).trans ?_
    rw [ih]
    by_cases h : Settings.Section.isHost path
    · rw [if_pos h, if_pos h, if_pos h, findSome?_cons_eq_or]
    · rw [if_neg h, if_neg h]

end Parent

/-- What is declared of a host itself. -/
def HostSpec.level (spec : HostSpec) : Parent :=
  ⟨spec.settings, spec.files, spec.templates.getD {}⟩

def ShardSpec.level (spec : ShardSpec) : Parent :=
  ⟨spec.settings, spec.files, spec.templates.getD {}⟩

def ReplicaSpec.level (spec : ReplicaSpec) : Parent :=
  ⟨spec.settings, spec.files, spec.templates.getD {}⟩

def ClusterSpec.level (spec : ClusterSpec) : Parent :=
  ⟨spec.settings, spec.files, spec.templates.getD {}⟩

/-- The level between a host and its cluster: its shard in a layout by shards, and its replica in a
layout by replicas. -/
def LayoutSpec.line (l : LayoutSpec) (s r : Nat) : Parent :=
  if l.ByShards then (l.shards[s]?.getD {}).level else (l.replicas[r]?.getD {}).level

/-- What clusters inherit from their installation. Its settings are not among it: they are written
to the files of the installation as a whole. -/
def InstallationResource.level (chi : InstallationResource) : Parent where
  settings := .empty
  files := chi.spec.configuration.files
  templates := (chi.spec.defaults.bind (·.templates)).getD {}

def Host.level (host : Host) : Parent := ⟨host.settings, host.files, host.templates⟩

/-- What is declared for a host itself and on the levels above it comes down to the host: settings
from no higher than its cluster, template names and host files from the installation too. -/
structure Host.Inherits (host : Host) (chi : InstallationResource) (spec : ClusterSpec)
    (own line : Parent) : Prop where
  settings (path : String) : host.settings.entries.find? path =
    [own, line, spec.level].findSome? (·.settings.entries.find? path)
  templates : host.templates = .firstOf
    [own.templates, line.templates, spec.level.templates, chi.level.templates]
  files (path : String) : host.files.entries.find? path =
    (own.files.entries.find? path).or
      (if Settings.Section.isHost path then
        [line, spec.level, chi.level].findSome? (·.files.entries.find? path)
      else none)

theorem Cluster.level_declaredHost {i : Installation} {chi : InstallationResource}
    (hfiles : i.files = chi.level.files) (hdefaults : i.defaults = chi.level.templates)
    (spec : ClusterSpec) (index : Nat) (defaults : HostDefaults) (s r : Nat) :
    (declaredHost i spec index defaults s r).level =
      (spec.layout.hostSpec s r).level.chain [spec.layout.line s r, spec.level, chi.level] := by
  have unlaid_level : (⟨(unlaid i spec index).settings, (unlaid i spec index).files,
      (unlaid i spec index).templates⟩ : Parent) = spec.level.inherit chi.level := by
    unfold unlaid Parent.inherit inheritTemplates inheritFiles
    rw [hfiles, hdefaults]
    rfl
  simp only [Parent.chain, ← unlaid_level]
  unfold declaredHost LayoutSpec.hostSpec LayoutSpec.line
  by_cases h : spec.layout.ByShards
  · simp only [if_pos h]
    rfl
  · simp only [if_neg h]
    rfl

theorem Host.inherits_of_level {host : Host} {chi : InstallationResource} {spec : ClusterSpec}
    {own line : Parent} (h : host.level = own.chain [line, spec.level, chi.level]) :
    host.Inherits chi spec own line := by
  refine ⟨fun path => ?_, ?_, fun path => ?_⟩
  · have hset := own.settings_chain [line, spec.level, chi.level] path
    rw [← h] at hset
    refine hset.trans ?_
    -- Nothing is set above the cluster.
    have htop : chi.level.settings.entries.find? path = none := rfl
    simp only [findSome?_cons_eq_or, htop, List.findSome?_nil, Option.or_none]
  · have hnames := own.templates_chain [line, spec.level, chi.level]
    rw [← h] at hnames
    exact hnames
  · have hfile := own.files_chain [line, spec.level, chi.level] path
    rw [← h] at hfile
    exact hfile

/-- A host has what is declared for it and what comes down to it from the levels above. -/
theorem Host.level_of_mem_hosts {chi : InstallationResource} {defaults : HostDefaults}
    {i : Installation} (h : chi.normalize defaults = .ok i) {host : Host} (hhost : host ∈ i.hosts) :
    ∃ spec, chi.spec.configuration.clusters[host.id.cluster]? = some spec ∧
      host.level = (spec.layout.hostSpec host.id.shard host.id.replica).level.chain
        [spec.layout.line host.id.shard host.id.replica, spec.level, chi.level] := by
  obtain ⟨spec, hspec, -, hplace⟩ := cluster_of_mem_hosts h hhost
  obtain ⟨-, ns, -, hframe⟩ := InstallationResource.normalize_spec h
  have hfiles : i.files = chi.level.files := by
    rw [hframe]
    rfl
  have hdefaults : i.defaults = chi.level.templates := by
    rw [hframe]
    rfl
  obtain ⟨-, hdeclared⟩ := Cluster.host?_ofSpec.1 hplace
  refine ⟨spec, hspec, ?_⟩
  rw [← Cluster.level_declaredHost hfiles hdefaults, ← hdeclared]

/-- Every value of a host is that of the nearest level that declares it: the host itself, its shard
or replica, its cluster, and for template names and host files the installation. -/
theorem host_inherits {chi : InstallationResource} {defaults : HostDefaults} {i : Installation}
    (h : chi.normalize defaults = .ok i) {host : Host} (hhost : host ∈ i.hosts) :
    ∃ spec, chi.spec.configuration.clusters[host.id.cluster]? = some spec ∧
      host.Inherits chi spec (spec.layout.hostSpec host.id.shard host.id.replica).level
        (spec.layout.line host.id.shard host.id.replica) := by
  obtain ⟨spec, hspec, hlevel⟩ := Host.level_of_mem_hosts h hhost
  exact ⟨spec, hspec, Host.inherits_of_level hlevel⟩

/-- One setting on three levels, and a template name on each of two. -/
def layered : InstallationResource where
  metadata := { ns := some "ns", name := some "demo", uid := some "uid-1" }
  spec := {
    defaults := some { templates := some {
      podTemplate := some "any-pod", serviceTemplate := some "any-service" } }
    configuration := { clusters := [{
      name := "main"
      settings := ⟨.ofList [("logger/level", .scalar "cluster")]⟩
      layout := {
        shardsCount := some 2
        replicas := [{}, {
          settings := ⟨.ofList [("logger/level", .scalar "replica")]⟩
          templates := some { podTemplate := some "replica-pod" }
          shards := [{ settings := ⟨.ofList [("logger/level", .scalar "host")]⟩ }] }] } }] } }

/-- Of two hosts of one replica the first sets a level of its own, and the second does not. -/
theorem host_inherits_layered :
    ∃ i first second, layered.normalize {} = .ok i ∧ first ∈ i.hosts ∧ second ∈ i.hosts ∧
      first.settings.entries.find? "logger/level" = some (.scalar "host") ∧
      second.settings.entries.find? "logger/level" = some (.scalar "replica") ∧
      second.templates =
        { podTemplate := some "replica-pod", serviceTemplate := some "any-service" } := by
  obtain ⟨i, hi, hids⟩ : ∃ i, layered.normalize {} = .ok i ∧
      i.hosts.map Host.id = [⟨0, 0, 0⟩, ⟨0, 0, 1⟩, ⟨0, 1, 0⟩, ⟨0, 1, 1⟩] := ⟨_, rfl, rfl⟩
  have host_at (id : HostId) (hid : id ∈ [⟨0, 0, 0⟩, ⟨0, 0, 1⟩, ⟨0, 1, 0⟩, ⟨0, 1, 1⟩]) :
      ∃ host ∈ i.hosts, host.id = id := by
    rw [← hids] at hid
    exact List.mem_map.1 hid
  obtain ⟨first, hfirst, hfirstId⟩ := host_at ⟨0, 0, 1⟩ (by decide)
  obtain ⟨second, hsecond, hsecondId⟩ := host_at ⟨0, 1, 1⟩ (by decide)
  obtain ⟨_, hspec, inherits⟩ := host_inherits hi hfirst
  obtain ⟨_, hspec', inherits'⟩ := host_inherits hi hsecond
  rw [hfirstId] at hspec inherits
  rw [hsecondId] at hspec' inherits'
  obtain rfl := Option.some.inj hspec
  obtain rfl := Option.some.inj hspec'
  refine ⟨i, first, second, hi, hfirst, hsecond, ?_, ?_, ?_⟩
  · rw [inherits.settings]
    rfl
  · rw [inherits'.settings]
    rfl
  · rw [inherits'.templates]
    rfl

end ShardOperator
