import ShardOperator.Proofs.Desired.Objects

namespace ShardOperator

/-- An object that is built under a name, cannot be built, or is not wanted at all. -/
structure Draft (kind : Kind) where
  name : String
  built : Outcome (Option (Resource kind))

/-- Of what is not wanted, there is neither an object nor an error. -/
def Draft.isWanted {kind : Kind} (d : Draft kind) : Bool :=
  match d.built with
  | .ok none => false
  | _ => true

theorem Draft.isWanted_iff {kind : Kind} {d : Draft kind} :
    d.isWanted = true ↔ (∃ object, d.built = .ok (some object)) ∨ ∃ e, d.built = .error e := by
  obtain ⟨name, _ | _ | object⟩ := d <;> simp [isWanted]

theorem Draft.isWanted_eq (d : Draft .service) : d.isWanted = ShardOperator.isWanted d.built := by
  obtain ⟨name, _ | _ | _⟩ := d <;> rfl

namespace Blueprint

def clusterDrafts (b : Blueprint) (c : Cluster) : List (Draft .service) :=
  ⟨c.serviceName, b.clusterService? c⟩ ::
    c.shards.map fun shard => ⟨c.shardServiceName shard, b.shardService? c shard⟩

/-- Everything that is built for an installation. -/
def drafts (b : Blueprint) : (kind : Kind) → List (Draft kind)
  | .service =>
    ⟨b.installation.serviceName, some <$> b.installationService⟩ ::
      (b.installation.clusters.flatMap b.clusterDrafts ++
        b.installation.hosts.map fun host =>
          ⟨host.address.workloadName, some <$> b.hostService host⟩)
  | .configMap =>
    ⟨b.installation.commonConfigMapName, .ok (some (b.commonConfigMap .none))⟩ ::
      ⟨b.installation.usersConfigMapName, .ok (some b.usersConfigMap)⟩ ::
        b.installation.hosts.map fun host =>
          ⟨host.address.configMapName, .ok (some (b.hostConfigMap host))⟩
  | .statefulSet =>
    b.installation.hosts.map fun host => ⟨host.address.workloadName, .ok (some (b.workload host))⟩
  | .disruptionBudget =>
    b.installation.clusters.map fun c => ⟨c.budgetName, .ok (some (b.budget c))⟩

/-- The name is that of an object that is built, or of one that cannot be built. -/
def Claims (b : Blueprint) (kind : Kind) (name : String) : Prop :=
  ∃ d ∈ b.drafts kind, (∃ object, d.built = .ok (some object) ∧ object.anyName = name) ∨
    ∃ e, d.built = .error e ∧ d.name = name

variable {b : Blueprint}

section Names

theorem name_fromTemplate {t : ServiceTemplate} {ns name : String} {labels selector : Labels}
    {object : Resource .service} (h : b.fromTemplate t ns name labels selector = .ok object) :
    object.metadata.name = some name := by
  obtain ⟨-, rfl⟩ := fromTemplate_ok h
  rfl

theorem eq_ok_of_map {α : Type} {x : Outcome α} {a : α}
    (h : (some <$> x : Outcome (Option α)) = .ok (some a)) : x = .ok a := by
  cases x with
  | error e => cases h
  | ok _ => exact congrArg Except.ok (Option.some.inj (Except.ok.inj h))

theorem name_installationService {object : Resource .service}
    (h : b.installationService = .ok object) :
    object.metadata.name = some b.installation.serviceName := by
  unfold installationService at h
  extract_lets i at h
  split at h
  · exact name_fromTemplate h
  · obtain rfl := Except.ok.inj h
    rfl

theorem name_hostService {host : Host} {object : Resource .service}
    (h : b.hostService host = .ok object) :
    object.metadata.name = some host.address.workloadName := by
  unfold hostService at h
  extract_lets a at h
  split at h
  · exact name_fromTemplate h
  · obtain rfl := Except.ok.inj h
    rfl

theorem name_clusterService? {c : Cluster} {object : Resource .service}
    (h : b.clusterService? c = .ok (some object)) : object.metadata.name = some c.serviceName := by
  unfold clusterService? at h
  split at h
  · exact name_fromTemplate (eq_ok_of_map h)
  · cases h

theorem name_shardService? {c : Cluster} {shard : Shard} {object : Resource .service}
    (h : b.shardService? c shard = .ok (some object)) :
    object.metadata.name = some (c.shardServiceName shard) := by
  unfold shardService? at h
  split at h
  · exact name_fromTemplate (eq_ok_of_map h)
  · cases h

/-- What is built has the name of its draft. -/
theorem name_of_mem_drafts {kind : Kind} {d : Draft kind} {object : Resource kind}
    (hd : d ∈ b.drafts kind) (h : d.built = .ok (some object)) :
    object.metadata.name = some d.name := by
  cases kind with
  | service =>
    rcases List.mem_cons.1 hd with rfl | hd
    · exact name_installationService (eq_ok_of_map h)
    · rcases List.mem_append.1 hd with hd | hd
      · obtain ⟨c, -, hd⟩ := List.mem_flatMap.1 hd
        rcases List.mem_cons.1 hd with rfl | hd
        · exact name_clusterService? h
        · obtain ⟨shard, -, rfl⟩ := List.mem_map.1 hd
          exact name_shardService? h
      · obtain ⟨host, -, rfl⟩ := List.mem_map.1 hd
        exact name_hostService (eq_ok_of_map h)
  | configMap =>
    rcases List.mem_cons.1 hd with rfl | hd
    · obtain rfl := Option.some.inj (Except.ok.inj h)
      rfl
    · rcases List.mem_cons.1 hd with rfl | hd
      · obtain rfl := Option.some.inj (Except.ok.inj h)
        rfl
      · obtain ⟨host, -, rfl⟩ := List.mem_map.1 hd
        obtain rfl := Option.some.inj (Except.ok.inj h)
        rfl
  | statefulSet =>
    obtain ⟨host, -, rfl⟩ := List.mem_map.1 hd
    obtain rfl := Option.some.inj (Except.ok.inj h)
    rfl
  | disruptionBudget =>
    obtain ⟨c, -, rfl⟩ := List.mem_map.1 hd
    obtain rfl := Option.some.inj (Except.ok.inj h)
    rfl

end Names

section Claims

variable {kind : Kind} {name : String}

theorem map_clusterDrafts (b : Blueprint) (c : Cluster) :
    ((b.clusterDrafts c).filter Draft.isWanted).map Draft.name = b.clusterServiceNames c := by
  have hshard : Draft.isWanted ∘ (fun shard =>
      (⟨c.shardServiceName shard, b.shardService? c shard⟩ : Draft .service)) =
      fun shard => isWanted (b.shardService? c shard) :=
    funext fun _ => Draft.isWanted_eq _
  rw [clusterDrafts, clusterServiceNames, List.filter_cons, Draft.isWanted_eq, List.filter_map,
    hshard]
  split <;> simp [Function.comp_def]

/-- What the sweep spares are the names of the drafts that are wanted. -/
theorem desiredNames_eq_map_drafts (b : Blueprint) (kind : Kind) :
    b.desiredNames kind = ((b.drafts kind).filter Draft.isWanted).map Draft.name := by
  cases kind with
  | service =>
    have hwanted (name : String) (built : Outcome (Resource .service)) :
        Draft.isWanted ⟨name, some <$> built⟩ = true := by
      rw [Draft.isWanted_eq]
      exact isWanted_some built
    have hhosts : (b.installation.hosts.map fun host =>
          (⟨host.address.workloadName, some <$> b.hostService host⟩ : Draft .service)).filter
          Draft.isWanted =
        b.installation.hosts.map fun host =>
          ⟨host.address.workloadName, some <$> b.hostService host⟩ := by
      refine List.filter_eq_self.2 fun d hd => ?_
      obtain ⟨host, -, rfl⟩ := List.mem_map.1 hd
      exact hwanted ..
    rw [drafts, List.filter_cons_of_pos (hwanted ..), List.filter_append, List.filter_flatMap,
      hhosts]
    simp only [List.map_cons, List.map_append, List.map_flatMap, map_clusterDrafts, List.map_map]
    rfl
  | configMap | statefulSet | disruptionBudget =>
    -- Of these kinds nothing is optional.
    rw [List.filter_eq_self.2 (by simp +contextual [drafts, or_imp, Draft.isWanted])]
    simp [desiredNames, drafts]

theorem claims_iff {kind : Kind} {name : String} :
    b.Claims kind name ↔ name ∈ b.desiredNames kind := by
  rw [desiredNames_eq_map_drafts, List.mem_map]
  constructor
  · rintro ⟨d, hd, ⟨object, hbuilt, rfl⟩ | ⟨e, hbuilt, rfl⟩⟩
    · refine ⟨d, List.mem_filter.2 ⟨hd, Draft.isWanted_iff.2 (.inl ⟨object, hbuilt⟩)⟩, ?_⟩
      rw [Resource.anyName, name_of_mem_drafts hd hbuilt]
      rfl
    · exact ⟨d, List.mem_filter.2 ⟨hd, Draft.isWanted_iff.2 (.inr ⟨e, hbuilt⟩)⟩, rfl⟩
  · rintro ⟨d, hd, rfl⟩
    obtain ⟨hd, hwanted⟩ := List.mem_filter.1 hd
    refine ⟨d, hd, (Draft.isWanted_iff.1 hwanted).imp ?_ ?_⟩
    · rintro ⟨object, hbuilt⟩
      refine ⟨object, hbuilt, ?_⟩
      rw [Resource.anyName, name_of_mem_drafts hd hbuilt]
      rfl
    · rintro ⟨e, hbuilt⟩
      exact ⟨e, hbuilt, rfl⟩

/-- The objects are the drafts that could be built. -/
theorem mem_drafts_of_mem_objects {kind : Kind} {object : Resource kind}
    (h : object ∈ b.objects kind) : ∃ d ∈ b.drafts kind, d.built = .ok (some object) := by
  cases kind with
  | service =>
    rcases List.mem_append.1 h with h | h
    · have h := eq_ok_of_toOption (Option.mem_toList.1 h)
      exact ⟨_, List.mem_cons_self .., by rw [h]; rfl⟩
    · rcases List.mem_append.1 h with h | h
      · obtain ⟨c, hc, h⟩ := List.mem_flatMap.1 h
        have hcluster {d : Draft .service} (hd : d ∈ b.clusterDrafts c) : d ∈ b.drafts .service :=
          List.mem_cons_of_mem _ (List.mem_append_left _ (List.mem_flatMap.2 ⟨c, hc, hd⟩))
        rcases List.mem_append.1 h with h | h
        · exact ⟨_, hcluster (List.mem_cons_self ..), eq_ok_of_join (Option.mem_toList.1 h)⟩
        · obtain ⟨shard, hshard, h⟩ := List.mem_filterMap.1 h
          exact ⟨_, hcluster (List.mem_cons_of_mem _ (List.mem_map_of_mem hshard)),
            eq_ok_of_join h⟩
      · obtain ⟨host, hhost, h⟩ := List.mem_filterMap.1 h
        have h := eq_ok_of_toOption h
        exact ⟨_, List.mem_cons_of_mem _ (List.mem_append_right _ (List.mem_map_of_mem hhost)),
          by rw [h]; rfl⟩
  | configMap =>
    rcases List.mem_cons.1 h with rfl | h
    · exact ⟨_, List.mem_cons_self .., rfl⟩
    · rcases List.mem_cons.1 h with rfl | h
      · exact ⟨_, List.mem_cons_of_mem _ (List.mem_cons_self ..), rfl⟩
      · obtain ⟨host, hhost, rfl⟩ := List.mem_map.1 h
        exact ⟨_, List.mem_cons_of_mem _ (List.mem_cons_of_mem _ (List.mem_map_of_mem hhost)), rfl⟩
  | statefulSet =>
    obtain ⟨host, hhost, rfl⟩ := List.mem_map.1 h
    exact ⟨_, List.mem_map_of_mem hhost, rfl⟩
  | disruptionBudget =>
    obtain ⟨c, hc, rfl⟩ := List.mem_map.1 h
    exact ⟨_, List.mem_map_of_mem hc, rfl⟩

theorem claims_of_mem_objects {kind : Kind} {object : Resource kind}
    (h : object ∈ b.objects kind) : b.Claims kind object.name := by
  obtain ⟨d, hd, hbuilt⟩ := mem_drafts_of_mem_objects h
  refine ⟨d, hd, .inl ⟨object, hbuilt, ?_⟩⟩
  rw [Resource.anyName, Resource.name, name_of_mem_drafts hd hbuilt]
  rfl

end Claims

end Blueprint

end ShardOperator
