import ShardOperator.Proofs.Desired.Built

namespace ShardOperator.Blueprint

/-- The Services of a cluster and of its shards, as far as they can be built. -/
def clusterObjects (b : Blueprint) (c : Cluster) : List (Resource .service) :=
  (b.clusterService? c).toOption.join.toList ++
    c.shards.filterMap fun shard => (b.shardService? c shard).toOption.join

/-- The objects that an installation is made of, as far as they can be built. -/
def objects (b : Blueprint) : (kind : Kind) → List (Resource kind)
  | .service =>
    b.installationService.toOption.toList ++
      (b.installation.clusters.flatMap b.clusterObjects ++
        b.installation.hosts.filterMap fun host => (b.hostService host).toOption)
  | .configMap =>
    b.commonConfigMap .none :: b.usersConfigMap :: b.installation.hosts.map b.hostConfigMap
  | .statefulSet => b.installation.hosts.map b.workload
  | .disruptionBudget => b.installation.clusters.map b.budget

/-- Every Service that is wanted can be built. -/
structure Buildable (b : Blueprint) : Prop where
  installation : b.installationService.isOk = true
  host : ∀ host ∈ b.installation.hosts, (b.hostService host).isOk = true
  cluster : ∀ c ∈ b.installation.clusters, (b.clusterService? c).isOk = true
  shard : ∀ c ∈ b.installation.clusters, ∀ shard ∈ c.shards, (b.shardService? c shard).isOk = true

variable {b : Blueprint} {object : Resource .service} {host : Host} {c : Cluster}

theorem mem_objects_installationService (h : b.installationService = .ok object) :
    object ∈ b.objects .service := by
  refine List.mem_append_left _ ?_
  rw [h]
  exact List.mem_singleton_self object

theorem mem_objects_hostService (hhost : host ∈ b.installation.hosts)
    (h : b.hostService host = .ok object) : object ∈ b.objects .service := by
  refine List.mem_append_right _ (List.mem_append_right _ (List.mem_filterMap.2 ⟨host, hhost, ?_⟩))
  rw [h]
  rfl

theorem mem_objects_clusterService (hc : c ∈ b.installation.clusters)
    (h : b.clusterService? c = .ok (some object)) : object ∈ b.objects .service := by
  refine List.mem_append_right _ (List.mem_append_left _ (List.mem_flatMap.2 ⟨c, hc, ?_⟩))
  refine List.mem_append_left _ ?_
  rw [h]
  exact List.mem_singleton_self object

theorem mem_objects_shardService (hc : c ∈ b.installation.clusters) {shard : Shard}
    (hshard : shard ∈ c.shards) (h : b.shardService? c shard = .ok (some object)) :
    object ∈ b.objects .service := by
  refine List.mem_append_right _ (List.mem_append_left _ (List.mem_flatMap.2 ⟨c, hc, ?_⟩))
  refine List.mem_append_right _ (List.mem_filterMap.2 ⟨shard, hshard, ?_⟩)
  rw [h]
  rfl

theorem mem_objects_commonConfigMap : b.commonConfigMap .none ∈ b.objects .configMap :=
  List.mem_cons_self ..

theorem mem_objects_usersConfigMap : b.usersConfigMap ∈ b.objects .configMap :=
  List.mem_cons_of_mem _ (List.mem_cons_self ..)

theorem mem_objects_hostConfigMap (hhost : host ∈ b.installation.hosts) :
    b.hostConfigMap host ∈ b.objects .configMap :=
  List.mem_cons_of_mem _ (List.mem_cons_of_mem _ (List.mem_map_of_mem hhost))

theorem eq_ok_of_toOption {α : Type} {x : Outcome α} {a : α} (h : x.toOption = some a) :
    x = .ok a := by
  cases x with
  | error e => cases h
  | ok _ => exact congrArg Except.ok (Option.some.inj h)

theorem eq_ok_of_join {α : Type} {x : Outcome (Option α)} {a : α}
    (h : x.toOption.join = some a) : x = .ok (some a) :=
  eq_ok_of_toOption (Option.join_eq_some_iff.1 h)

/-- Every object is built under one of the installation's names. -/
theorem built_of_mem_objects (placed : b.installation.Placed)
    (spare : b.installation.templates.SpareLabels) {kind : Kind} {object : Resource kind}
    (h : object ∈ b.objects kind) :
    ∃ name ∈ b.installation.objectNames kind, b.Built name object := by
  cases kind with
  | service =>
    rcases List.mem_append.1 h with h | h
    · have h := eq_ok_of_toOption (Option.mem_toList.1 h)
      exact ⟨_, List.mem_cons_self .., built_installationService spare h⟩
    · rcases List.mem_append.1 h with h | h
      · obtain ⟨c, hc, h⟩ := List.mem_flatMap.1 h
        rcases List.mem_append.1 h with h | h
        · have h := eq_ok_of_join (Option.mem_toList.1 h)
          exact ⟨_, mem_objectNames_clusterService hc h, built_clusterService placed spare hc h⟩
        · obtain ⟨shard, hshard, h⟩ := List.mem_filterMap.1 h
          have h := eq_ok_of_join h
          exact ⟨_, mem_objectNames_shardService hc hshard h, built_shardService placed spare hc h⟩
      · obtain ⟨host, hhost, h⟩ := List.mem_filterMap.1 h
        have h := eq_ok_of_toOption h
        exact ⟨_, Installation.mem_objectNames_hostService hhost,
          built_hostService placed spare hhost h⟩
  | configMap =>
    rcases List.mem_cons.1 h with rfl | h
    · exact ⟨_, List.mem_cons_self .., built_commonConfigMap _⟩
    · rcases List.mem_cons.1 h with rfl | h
      · exact ⟨_, List.mem_cons_of_mem _ (List.mem_cons_self ..), built_usersConfigMap⟩
      · obtain ⟨host, hhost, rfl⟩ := List.mem_map.1 h
        exact ⟨_, Installation.mem_objectNames_hostConfigMap hhost,
          built_hostConfigMap placed hhost⟩
  | statefulSet =>
    obtain ⟨host, hhost, rfl⟩ := List.mem_map.1 h
    exact ⟨_, List.mem_map_of_mem hhost, built_workload placed hhost⟩
  | disruptionBudget =>
    obtain ⟨c, hc, rfl⟩ := List.mem_map.1 h
    exact ⟨_, List.mem_map_of_mem hc, built_budget placed hc⟩

end ShardOperator.Blueprint
