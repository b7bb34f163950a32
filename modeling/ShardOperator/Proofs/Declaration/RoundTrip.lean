import ShardOperator.Proofs.Declaration.StatusWrites

namespace ShardOperator

open Json (ReadsBack read_bind)

section Layout

/-- Each settings map of a host was put together by the operations on settings. So it is below with
all that hosts are declared in. -/
structure HostSpec.Made (x : HostSpec) : Prop where
  settings : x.settings.Made
  files : x.files.Made

structure ReplicaSpec.Made (x : ReplicaSpec) : Prop where
  settings : x.settings.Made
  files : x.files.Made
  shards : ∀ host ∈ x.shards, host.Made

structure ShardSpec.Made (x : ShardSpec) : Prop where
  settings : x.settings.Made
  files : x.files.Made
  replicas : ∀ host ∈ x.replicas, host.Made

structure LayoutSpec.Made (x : LayoutSpec) : Prop where
  shards : ∀ shard ∈ x.shards, shard.Made
  replicas : ∀ replica ∈ x.replicas, replica.Made

structure ClusterSpec.Made (x : ClusterSpec) : Prop where
  settings : x.settings.Made
  files : x.files.Made
  layout : x.layout.Made

theorem TemplateNames.readsBack (x : TemplateNames) : ReadsBack ofJson? toJson x := by
  -- Here and below, what is left is that each field is read from the entry that it is written as.
  refine .of_record (fun _ => rfl) rfl rfl (by decide) fun fields f => ?_
  rw [read_bind (f.text "hostTemplate" rfl), read_bind (f.text "podTemplate" rfl),
    read_bind (f.text "dataVolumeClaimTemplate" rfl),
    read_bind (f.text "logVolumeClaimTemplate" rfl), read_bind (f.text "serviceTemplate" rfl),
    read_bind (f.text "clusterServiceTemplate" rfl), read_bind (f.text "shardServiceTemplate" rfl),
    read_bind (f.text "replicaServiceTemplate" rfl)]

theorem HostSpec.Made.readsBack {x : HostSpec} (h : x.Made) : ReadsBack ofJson? toJson x := by
  refine .of_record (fun _ => rfl) rfl rfl (by decide) fun fields f => ?_
  rw [read_bind (f.text "name" rfl), read_bind (f.port "tcpPort" rfl),
    read_bind (f.port "httpPort" rfl), read_bind (f.port "interserverHTTPPort" rfl),
    read_bind (f.settings "settings" rfl h.settings), read_bind (f.settings "files" rfl h.files),
    read_bind (f.optional "templates" rfl fun t _ => t.readsBack)]

theorem ReplicaSpec.Made.readsBack {x : ReplicaSpec} (h : x.Made) : ReadsBack ofJson? toJson x := by
  refine .of_record (fun _ => rfl) rfl rfl (by decide) fun fields f => ?_
  rw [read_bind (f.text "name" rfl), read_bind (f.settings "settings" rfl h.settings),
    read_bind (f.settings "files" rfl h.files),
    read_bind (f.optional "templates" rfl fun t _ => t.readsBack),
    read_bind (f.count "shardsCount" rfl),
    read_bind (f.items "shards" rfl fun host hhost => (h.shards host hhost).readsBack)]

theorem ShardSpec.Made.readsBack {x : ShardSpec} (h : x.Made) : ReadsBack ofJson? toJson x := by
  refine .of_record (fun _ => rfl) rfl rfl (by decide) fun fields f => ?_
  rw [read_bind (f.text "name" rfl), read_bind (f.count "weight" rfl),
    read_bind (f.optional "internalReplication" rfl fun b _ => Json.readsBack_bool b),
    read_bind (f.settings "settings" rfl h.settings), read_bind (f.settings "files" rfl h.files),
    read_bind (f.optional "templates" rfl fun t _ => t.readsBack),
    read_bind (f.count "replicasCount" rfl),
    read_bind (f.items "replicas" rfl fun host hhost => (h.replicas host hhost).readsBack)]

theorem LayoutSpec.Made.readsBack {x : LayoutSpec} (h : x.Made) : ReadsBack ofJson? toJson x := by
  refine .of_record (fun _ => rfl) rfl rfl (by decide) fun fields f => ?_
  rw [read_bind (f.count "shardsCount" rfl), read_bind (f.count "replicasCount" rfl),
    read_bind (f.items "shards" rfl fun shard hshard => (h.shards shard hshard).readsBack),
    read_bind (f.items "replicas" rfl fun replica hreplica =>
      (h.replicas replica hreplica).readsBack)]

theorem ClusterSpec.Made.readsBack {x : ClusterSpec} (h : x.Made) : ReadsBack ofJson? toJson x := by
  refine .of_record (fun _ => rfl) rfl rfl (by decide) fun fields f => ?_
  rw [read_bind (f.required "name" rfl (Json.readsBack_text x.name)),
    read_bind (f.settings "settings" rfl h.settings), read_bind (f.settings "files" rfl h.files),
    read_bind (f.optional "templates" rfl fun t _ => t.readsBack),
    read_bind (f.defaulted "layout" rfl h.layout.readsBack)]

end Layout

section Templates

/-- What a template embeds of the platform's types is read back. -/
structure PodTemplate.Faithful (x : PodTemplate) : Prop where
  metadata : ∀ m ∈ x.metadata, ObjectMeta.ofJson? m.toJson = some m
  spec : PodSpec.ofJson? x.spec.toJson = some x.spec

structure VolumeClaimTemplate.Faithful (x : VolumeClaimTemplate) : Prop where
  metadata : ∀ m ∈ x.metadata, ObjectMeta.ofJson? m.toJson = some m
  spec : VolumeClaimSpec.ofJson? x.spec.toJson = some x.spec

structure ServiceTemplate.Faithful (x : ServiceTemplate) : Prop where
  metadata : ObjectMeta.ofJson? x.metadata.toJson = some x.metadata
  spec : ServiceSpec.ofJson? x.spec.toJson = some x.spec

structure Templates.Faithful (x : Templates) : Prop where
  pods : ∀ t ∈ x.podTemplates, t.Faithful
  volumeClaims : ∀ t ∈ x.volumeClaimTemplates, t.Faithful
  services : ∀ t ∈ x.serviceTemplates, t.Faithful

theorem PodTemplate.Faithful.readsBack {x : PodTemplate} (h : x.Faithful) :
    ReadsBack ofJson? toJson x := by
  refine .of_record (fun _ => rfl) rfl rfl (by decide) fun fields f => ?_
  rw [read_bind (f.required "name" rfl (Json.readsBack_text x.name)),
    read_bind (f.optional "metadata" rfl fun m hm => ⟨h.metadata m hm, nofun⟩),
    read_bind (f.defaulted "spec" rfl ⟨h.spec, nofun⟩)]

theorem VolumeClaimTemplate.Faithful.readsBack {x : VolumeClaimTemplate} (h : x.Faithful) :
    ReadsBack ofJson? toJson x := by
  refine .of_record (fun _ => rfl) rfl rfl (by decide) fun fields f => ?_
  rw [read_bind (f.required "name" rfl (Json.readsBack_text x.name)),
    read_bind (f.optional "metadata" rfl fun m hm => ⟨h.metadata m hm, nofun⟩),
    read_bind (f.defaulted "spec" rfl ⟨h.spec, nofun⟩)]

theorem ServiceTemplate.Faithful.readsBack {x : ServiceTemplate} (h : x.Faithful) :
    ReadsBack ofJson? toJson x := by
  refine .of_record (fun _ => rfl) rfl rfl (by decide) fun fields f => ?_
  rw [read_bind (f.required "name" rfl (Json.readsBack_text x.name)),
    read_bind (f.defaulted "metadata" rfl ⟨h.metadata, nofun⟩),
    read_bind (f.defaulted "spec" rfl ⟨h.spec, nofun⟩)]

theorem Templates.Faithful.readsBack {x : Templates} (h : x.Faithful) :
    ReadsBack ofJson? toJson x := by
  refine .of_record (fun _ => rfl) rfl rfl (by decide) fun fields f => ?_
  rw [read_bind (f.items "podTemplates" rfl fun t ht => (h.pods t ht).readsBack),
    read_bind (f.items "volumeClaimTemplates" rfl fun t ht => (h.volumeClaims t ht).readsBack),
    read_bind (f.items "serviceTemplates" rfl fun t ht => (h.services t ht).readsBack)]

end Templates

section Installation

structure Configuration.Made (x : Configuration) : Prop where
  settings : x.settings.Made
  files : x.files.Made
  users : x.users.Made
  profiles : x.profiles.Made
  quotas : x.quotas.Made
  clusters : ∀ cluster ∈ x.clusters, cluster.Made

theorem ZookeeperNode.readsBack (x : ZookeeperNode) : ReadsBack ofJson? toJson x := by
  refine .of_record (fun _ => rfl) rfl rfl (by decide) fun fields f => ?_
  rw [read_bind (f.required "host" rfl (Json.readsBack_text x.host)),
    read_bind (f.port "port" rfl)]

theorem ZookeeperConfig.readsBack (x : ZookeeperConfig) : ReadsBack ofJson? toJson x := by
  refine .of_record (fun _ => rfl) rfl rfl (by decide) fun fields f => ?_
  have hnodes : fields.defaulted "nodes" [] (Json.list? ZookeeperNode.ofJson?) = some x.nodes :=
    f.defaulted "nodes" rfl (Json.readsBack_list fun node _ => node.readsBack)
  rw [read_bind hnodes, read_bind (f.count "sessionTimeoutMs" rfl),
    read_bind (f.count "operationTimeoutMs" rfl), read_bind (f.text "root" rfl),
    read_bind (f.text "identity" rfl)]

theorem Configuration.Made.readsBack {x : Configuration} (h : x.Made) :
    ReadsBack ofJson? toJson x := by
  refine .of_record (fun _ => rfl) rfl rfl (by decide) fun fields f => ?_
  rw [read_bind (f.settings "settings" rfl h.settings), read_bind (f.settings "files" rfl h.files),
    read_bind (f.settings "users" rfl h.users), read_bind (f.settings "profiles" rfl h.profiles),
    read_bind (f.settings "quotas" rfl h.quotas),
    read_bind (f.optional "zookeeper" rfl fun z _ => z.readsBack),
    read_bind (f.items "clusters" rfl fun cluster hcluster =>
      (h.clusters cluster hcluster).readsBack)]

theorem Defaults.readsBack (x : Defaults) : ReadsBack ofJson? toJson x := by
  refine .of_record (fun _ => rfl) rfl rfl (by decide) fun fields f => ?_
  rw [read_bind (f.optional "templates" rfl fun t _ => t.readsBack)]

theorem InstallationSpec.readsBack {x : InstallationSpec} (h : x.configuration.Made)
    (htemplates : ∀ t ∈ x.templates, t.Faithful) : ReadsBack ofJson? toJson x := by
  refine .of_record (fun _ => rfl) rfl rfl (by decide) fun fields f => ?_
  have hstop : fields.defaulted "stop" false Json.bool? = some x.stop := by
    cases hx : x.stop with
    | false => exact Fields.defaulted_missing f.nodup (f.of_entry (by rw [hx]; rfl)) false
    | true => exact f.defaulted "stop" (by rw [hx]; rfl) (Json.readsBack_bool true)
  rw [read_bind hstop, read_bind (f.optional "defaults" rfl fun d _ => d.readsBack),
    read_bind (f.defaulted "configuration" rfl h.readsBack),
    read_bind (f.optional "templates" rfl fun t ht => (htemplates t ht).readsBack)]

end Installation

section Read

variable {value : Json}

theorem HostSpec.Made.of_ofJson? {x : HostSpec} (h : ofJson? value = some x) : x.Made := by
  simp only [ofJson?, Option.bind_eq_bind, Option.bind_eq_some_iff] at h
  obtain ⟨f, -, _, -, _, -, _, -, _, -, settings, hsettings, files, hfiles, _, -, hx⟩ := h
  obtain rfl := Option.some.inj hx
  exact ⟨Fields.of_settings hsettings, Fields.of_settings hfiles⟩

theorem ReplicaSpec.Made.of_ofJson? {x : ReplicaSpec} (h : ofJson? value = some x) : x.Made := by
  simp only [ofJson?, Option.bind_eq_bind, Option.bind_eq_some_iff] at h
  obtain ⟨f, -, _, -, settings, hsettings, files, hfiles, _, -, _, -, shards, hshards, hx⟩ := h
  obtain rfl := Option.some.inj hx
  exact ⟨Fields.of_settings hsettings, Fields.of_settings hfiles,
    Fields.of_items HostSpec.Made.of_ofJson? hshards⟩

theorem ShardSpec.Made.of_ofJson? {x : ShardSpec} (h : ofJson? value = some x) : x.Made := by
  simp only [ofJson?, Option.bind_eq_bind, Option.bind_eq_some_iff] at h
  obtain ⟨f, -, _, -, _, -, _, -, settings, hsettings, files, hfiles, _, -, _, -, replicas,
    hreplicas, hx⟩ := h
  obtain rfl := Option.some.inj hx
  exact ⟨Fields.of_settings hsettings, Fields.of_settings hfiles,
    Fields.of_items HostSpec.Made.of_ofJson? hreplicas⟩

theorem LayoutSpec.Made.of_ofJson? {x : LayoutSpec} (h : ofJson? value = some x) : x.Made := by
  simp only [ofJson?, Option.bind_eq_bind, Option.bind_eq_some_iff] at h
  obtain ⟨f, -, _, -, _, -, shards, hshards, replicas, hreplicas, hx⟩ := h
  obtain rfl := Option.some.inj hx
  exact ⟨Fields.of_items ShardSpec.Made.of_ofJson? hshards,
    Fields.of_items ReplicaSpec.Made.of_ofJson? hreplicas⟩

theorem ClusterSpec.Made.of_ofJson? {x : ClusterSpec} (h : ofJson? value = some x) : x.Made := by
  simp only [ofJson?, Option.bind_eq_bind, Option.bind_eq_some_iff] at h
  obtain ⟨f, -, _, -, settings, hsettings, files, hfiles, _, -, layout, hlayout, hx⟩ := h
  obtain rfl := Option.some.inj hx
  have hempty : LayoutSpec.Made {} := ⟨List.forall_mem_nil _, List.forall_mem_nil _⟩
  exact ⟨Fields.of_settings hsettings, Fields.of_settings hfiles,
    Fields.of_defaulted LayoutSpec.Made.of_ofJson? hempty hlayout⟩

theorem Configuration.Made.of_ofJson? {x : Configuration} (h : ofJson? value = some x) :
    x.Made := by
  simp only [ofJson?, Option.bind_eq_bind, Option.bind_eq_some_iff] at h
  obtain ⟨f, -, settings, hsettings, files, hfiles, users, husers, profiles, hprofiles, quotas,
    hquotas, _, -, clusters, hclusters, hx⟩ := h
  obtain rfl := Option.some.inj hx
  exact ⟨Fields.of_settings hsettings, Fields.of_settings hfiles, Fields.of_settings husers,
    Fields.of_settings hprofiles, Fields.of_settings hquotas,
    Fields.of_items ClusterSpec.Made.of_ofJson? hclusters⟩

theorem Configuration.Made.of_spec {x : InstallationSpec}
    (h : InstallationSpec.ofJson? value = some x) : x.configuration.Made := by
  simp only [InstallationSpec.ofJson?, Option.bind_eq_bind, Option.bind_eq_some_iff] at h
  obtain ⟨f, -, _, -, _, -, configuration, hconfiguration, _, -, hx⟩ := h
  obtain rfl := Option.some.inj hx
  have hempty : Configuration.Made {} :=
    ⟨.empty, .empty, .empty, .empty, .empty, List.forall_mem_nil _⟩
  exact Fields.of_defaulted Configuration.Made.of_ofJson? hempty hconfiguration

end Read

theorem InstallationStatus.ofJson?_toJson (status : InstallationStatus) :
    ofJson? status.toJson = some status :=
  status.toldBy_written.ofJson?

/-- A specification whose settings were put together by the operations on settings is read from what
it is written as, and so is every status. What has been read from a document is read again from what
it is written as. Of what templates embed of the platform's types, it is taken that it is read
back. -/
theorem declaration_round_trips :
    (∀ spec : InstallationSpec, spec.configuration.Made → (∀ t ∈ spec.templates, t.Faithful) →
      InstallationSpec.ofJson? spec.toJson = some spec) ∧
    (∀ status : InstallationStatus, InstallationStatus.ofJson? status.toJson = some status) ∧
    (∀ (document : Json) (spec : InstallationSpec), InstallationSpec.ofJson? document = some spec →
      (∀ t ∈ spec.templates, t.Faithful) → InstallationSpec.ofJson? spec.toJson = some spec) ∧
    ∀ (document : Json) (status : InstallationStatus),
      InstallationStatus.ofJson? document = some status →
        InstallationStatus.ofJson? status.toJson = some status := by
  refine ⟨fun spec hmade hfaithful => (InstallationSpec.readsBack hmade hfaithful).read_write,
    InstallationStatus.ofJson?_toJson, fun document spec hread hfaithful => ?_,
    fun _ status _ => status.ofJson?_toJson⟩
  exact (InstallationSpec.readsBack (.of_spec hread) hfaithful).read_write

/-- The general result for settings that are set under two spellings of their paths, for a list of
shards, and for templates of two kinds. -/
theorem declaration_round_trips_layered :
    let users : Settings := Settings.empty.set "/admin / networks/" (.vector ["::1", "10.0.0.1"])
    let host : HostSpec := { tcpPort := some 9001, settings := users.set "a//b" (.scalar "") }
    let cluster : ClusterSpec := {
      name := "main"
      layout := { shards := [{ weight := some 0, internalReplication := some false,
                               replicas := [host] }] } }
    let metadata : ObjectMeta := { labels := some (SortedMap.ofList [("app", "")]) }
    let templates : Templates := {
      podTemplates := [{ name := "pod", metadata := some metadata,
                         spec := { containers := [{ name := "server" }] } }]
      serviceTemplates := [{ name := "" }] }
    let spec : InstallationSpec := {
      stop := true
      defaults := some {}
      configuration := { users := users, zookeeper := some {}, clusters := [cluster] }
      templates := some templates }
    spec.configuration.Made ∧ (∀ t ∈ spec.templates, t.Faithful) ∧
      InstallationSpec.ofJson? spec.toJson = some spec := by
  intro users host cluster metadata templates spec
  have husers : users.Made := .set .empty ..
  have hhost : host.Made := ⟨.set husers .., .empty⟩
  have hshards : ∀ shard ∈ cluster.layout.shards, shard.Made :=
    List.forall_mem_singleton.2 ⟨.empty, .empty, List.forall_mem_singleton.2 hhost⟩
  have hcluster : cluster.Made := ⟨.empty, .empty, hshards, List.forall_mem_nil _⟩
  have hmade : spec.configuration.Made :=
    ⟨.empty, .empty, husers, .empty, .empty, List.forall_mem_singleton.2 hcluster⟩
  have hmetadata : ObjectMeta.ofJson? metadata.toJson = some metadata := by decide +kernel
  have hpod : ∀ t ∈ templates.podTemplates, t.Faithful := by
    refine List.forall_mem_singleton.2 ⟨?_, by decide +kernel⟩
    rintro _ ⟨⟩
    exact hmetadata
  have hservice : ∀ t ∈ templates.serviceTemplates, t.Faithful :=
    List.forall_mem_singleton.2 ⟨by decide +kernel, by decide +kernel⟩
  have htemplates : ∀ t ∈ spec.templates, t.Faithful := by
    rintro _ ⟨⟩
    exact ⟨hpod, List.forall_mem_nil _, hservice⟩
  exact ⟨hmade, htemplates, declaration_round_trips.1 spec hmade htemplates⟩

end ShardOperator
