import ShardOperator.Proofs.Desired.Belonging

namespace ShardOperator

namespace Labels

theorem mark_address (a : HostAddress) : a.labels.Mark a.installation :=
  ((((mark_ofInstallation _).insert _ (by decide) (by decide)).insert _ (by decide)
    (by decide)).insert _ (by decide) (by decide)).insert _ (by decide) (by decide)

theorem mark_cluster (c : Cluster) : c.selector.Mark c.installation :=
  (mark_ofInstallation _).insert _ (by decide) (by decide)

theorem mark_installation (i : Installation) : i.labels.Mark i.name :=
  (mark_ofInstallation _).insert _ (by decide) (by decide)

theorem mark_keepExisting {required : Labels} {existing : Option Labels} {name : String}
    (h : required.Mark name) (happ : (existing.getD .empty).find? app = none)
    (hinst : (existing.getD .empty).find? installation = none) :
    (required.keepExisting existing).Mark name := by
  refine ⟨?_, ?_⟩
  · rw [find?_keepExisting, happ]
    exact h.1
  · rw [find?_keepExisting, hinst]
    exact h.2

end Labels

/-- The labels of a host's workload tell the parts of the host's address that its names are made
of. -/
theorem HostAddress.ofLabels?_labels_eq (a : HostAddress) (ns : String) :
    ofLabels? a.labels ns = some
      { ns, installation := a.installation, cluster := a.cluster, shard := a.shard,
        replica := a.replica, host := a.shard ++ "-" ++ a.replica } := by
  refine ofLabels?_eq_some.2 ⟨a.shard, a.replica, a.installation, a.cluster, ?_, ?_, ?_, ?_, rfl⟩
  all_goals
    simp [labels, selector, Labels.ofCluster, SortedMap.find?_insert, Labels.find?_ofInstallation,
      Labels.shard, Labels.replica, Labels.installation, Labels.cluster, Labels.ns]

theorem HostAddress.ofLabels?_labels (a : HostAddress) (ns : String) :
    ∃ b, ofLabels? a.labels ns = some b ∧ b.workloadName = a.workloadName :=
  ⟨_, a.ofLabels?_labels_eq ns, rfl⟩

/-- No Service template sets a label that objects are listed by. -/
def Templates.SpareLabels (t : Templates) : Prop :=
  ∀ template ∈ t.serviceTemplates,
    (template.metadata.labels.getD .empty).find? Labels.app = none ∧
      (template.metadata.labels.getD .empty).find? Labels.installation = none

namespace Blueprint

/-- An object of the given name that belongs to the installation and has a version. -/
structure Built (b : Blueprint) {kind : Kind} (name : String) (object : Resource kind) : Prop where
  belongs : Belongs b.installation.identity object
  name : object.name = name
  version : object.version?.isSome

theorem version?_stamp {kind : Kind} (object : Resource kind) : object.stamp.version?.isSome := by
  simp [Resource.stamp, Resource.version?, SortedMap.find?_insert]

theorem owner?_eq (b : Blueprint) {uid : String} (h : b.installation.uid = some uid) :
    ∃ owner, b.owner? = some owner ∧ owner.uid = uid := by
  simp [owner?, h]

/-- Finishing gives an object the owner and the version that it needs to belong. -/
theorem built_finish (b : Blueprint) {kind : Kind} {object : Resource kind} {name : String}
    (hns : object.ns = b.installation.ns) (hname : object.metadata.name = some name)
    (hmark : Labels.Mark (object.metadata.labels.getD .empty) b.installation.name)
    (haddress : kind = .statefulSet →
      ∃ a, HostAddress.ofLabels? (object.metadata.labels.getD .empty) b.installation.ns = some a ∧
        a.workloadName = name) :
    b.Built name (b.finish object) := by
  have hnamed : (b.finish object).metadata.name = some name := hname
  have hfinal : (b.finish object).name = name := by rw [Resource.name, hnamed]; rfl
  refine ⟨⟨hns, ?_, Labels.carries_iff.2 hmark, ?_, ?_⟩, hfinal, version?_stamp _⟩
  · rw [Resource.anyName, Resource.name, hnamed]
    rfl
  · intro uid huid
    obtain ⟨owner, howner, heq⟩ := b.owner?_eq huid
    change (((b.owner?.map ([·])).or object.metadata.ownerReferences).getD []).any _ = true
    simp [howner, heq]
  · intro hk
    obtain ⟨a, ha, hwork⟩ := haddress hk
    exact ⟨a, ha, hwork.trans hfinal.symm⟩

variable {b : Blueprint}

theorem built_generated {kind : Kind} {body : kind.Body} {name : String} {labels : Labels}
    (hk : kind ≠ .statefulSet) (hmark : labels.Mark b.installation.name) :
    b.Built name (b.finish ⟨.generated name b.installation.ns labels, body⟩) :=
  b.built_finish rfl rfl hmark fun h => absurd h hk

theorem built_commonConfigMap (e : Exclusion) :
    b.Built b.installation.commonConfigMapName (b.commonConfigMap e) :=
  built_generated (by decide)
    ((Labels.mark_installation b.installation).insert _ (by decide) (by decide))

theorem built_usersConfigMap : b.Built b.installation.usersConfigMapName b.usersConfigMap :=
  built_generated (by decide)
    ((Labels.mark_installation b.installation).insert _ (by decide) (by decide))

section Placed

variable (placed : b.installation.Placed) {host : Host} (hhost : host ∈ b.installation.hosts)

include placed

theorem built_budget {c : Cluster} (hc : c ∈ b.installation.clusters) :
    b.Built c.budgetName (b.budget c) := by
  obtain ⟨hns, hinst⟩ := placed.cluster c hc
  unfold budget
  rw [hns]
  exact built_generated (by decide)
    (hinst ▸ (Labels.mark_cluster c).insert _ (by decide) (by decide))

include hhost

theorem mark_host : host.address.labels.Mark b.installation.name :=
  (placed.host host hhost).2 ▸ Labels.mark_address host.address

theorem built_hostConfigMap :
    b.Built host.address.configMapName (b.hostConfigMap host) := by
  unfold hostConfigMap configMap Host.ns
  rw [(placed.host host hhost).1]
  exact built_generated (by decide) ((mark_host placed hhost).insert _ (by decide) (by decide))

theorem built_workload : b.Built host.address.workloadName (b.workload host) := by
  unfold workload
  rw [(placed.host host hhost).1]
  exact b.built_finish rfl rfl (mark_host placed hhost) fun _ =>
    host.address.ofLabels?_labels b.installation.ns

end Placed

section Services

variable (placed : b.installation.Placed) (spare : b.installation.templates.SpareLabels)
  {object : Resource .service}

/-- A Service comes from a template whose ports have been checked. -/
theorem fromTemplate_ok {t : ServiceTemplate} {ns name : String} {labels selector : Labels}
    (h : b.fromTemplate t ns name labels selector = .ok object) :
    t.verifyPorts = .ok () ∧ object = b.finish (t.instantiate ns name labels selector) := by
  unfold fromTemplate at h
  cases hports : t.verifyPorts with
  | error e =>
    rw [hports] at h
    cases h
  | ok _ =>
    rw [hports] at h
    exact ⟨rfl, (Except.ok.inj h).symm⟩

include spare

/-- A Service from a template has the labels that it needs besides those of the template. -/
theorem built_fromTemplate {t : ServiceTemplate} {template : Option String}
    {ns name : String} {labels selector : Labels} (ht : b.serviceTemplate? template = some t)
    (hns : ns = b.installation.ns) (hmark : labels.Mark b.installation.name)
    (h : b.fromTemplate t ns name labels selector = .ok object) : b.Built name object := by
  obtain ⟨-, rfl⟩ := fromTemplate_ok h
  obtain ⟨_, -, hfind⟩ := Option.bind_eq_some_iff.1 ht
  obtain ⟨happ, hinst⟩ := spare t (List.mem_of_find?_eq_some hfind)
  exact b.built_finish hns rfl (Labels.mark_keepExisting hmark happ hinst)
    fun hk => absurd hk (by decide)

theorem built_installationService (h : b.installationService = .ok object) :
    b.Built b.installation.serviceName object := by
  have hmark : b.installation.serviceLabels.Mark b.installation.name :=
    (Labels.mark_installation b.installation).insert _ (by decide) (by decide)
  unfold installationService at h
  extract_lets i at h
  split at h
  · next t ht => exact built_fromTemplate spare ht rfl hmark h
  · obtain rfl := Except.ok.inj h
    exact built_generated (by decide) hmark

include placed

theorem built_hostService {host : Host} (hhost : host ∈ b.installation.hosts)
    (h : b.hostService host = .ok object) : b.Built host.address.workloadName object := by
  have hns := (placed.host host hhost).1
  have hmark : host.address.serviceLabels.Mark b.installation.name :=
    (mark_host placed hhost).insert _ (by decide) (by decide)
  unfold hostService at h
  extract_lets a at h
  split at h
  · next t ht => exact built_fromTemplate spare ht hns hmark h
  · obtain rfl := Except.ok.inj h
    unfold Host.ns
    rw [hns]
    exact built_generated (by decide) hmark

theorem built_clusterService {c : Cluster} (hc : c ∈ b.installation.clusters)
    (h : b.clusterService? c = .ok (some object)) : b.Built c.serviceName object := by
  obtain ⟨hns, hinst⟩ := placed.cluster c hc
  have hmark : c.serviceLabels.Mark b.installation.name :=
    hinst ▸ ((Labels.mark_cluster c).insert _ (by decide) (by decide)).insert _ (by decide)
      (by decide)
  unfold clusterService? at h
  split at h
  · next t ht =>
    cases hbuilt : b.fromTemplate t c.ns c.serviceName c.serviceLabels c.selector with
    | error e =>
      rw [hbuilt] at h
      cases h
    | ok built =>
      rw [hbuilt] at h
      obtain rfl := Option.some.inj (Except.ok.inj h)
      exact built_fromTemplate spare ht hns hmark hbuilt
  · cases h

theorem built_shardService {c : Cluster} (hc : c ∈ b.installation.clusters) {shard : Shard}
    (h : b.shardService? c shard = .ok (some object)) :
    b.Built (c.shardServiceName shard) object := by
  obtain ⟨hns, hinst⟩ := placed.cluster c hc
  have hmark : (c.shardServiceLabels shard).Mark b.installation.name :=
    hinst ▸ (((Labels.mark_cluster c).insert _ (by decide) (by decide)).insert _ (by decide)
      (by decide)).insert _ (by decide) (by decide)
  unfold shardService? at h
  split at h
  · next t ht =>
    cases hbuilt : b.fromTemplate t c.ns (c.shardServiceName shard) (c.shardServiceLabels shard)
      (c.shardSelector shard) with
    | error e =>
      rw [hbuilt] at h
      cases h
    | ok built =>
      rw [hbuilt] at h
      obtain rfl := Option.some.inj (Except.ok.inj h)
      exact built_fromTemplate spare ht hns hmark hbuilt
  · cases h

end Services

end Blueprint

end ShardOperator
