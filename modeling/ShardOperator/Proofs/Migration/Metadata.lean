import ShardOperator.Proofs.Desired.Belonging

namespace ShardOperator

/-- What the names lack that are kept already, each once, in the order in which it comes first. -/
def missing (kept names : List String) : List String := (names.filter (· ∉ kept)).eraseDups

def addMissing (kept : List String) (name : String) : List String :=
  if name ∈ kept then kept else kept ++ [name]

section Missing

variable {kept names : List String} {name : String}

theorem mem_missing : name ∈ missing kept names ↔ name ∈ names ∧ name ∉ kept := by
  simp [missing]

theorem missing_cons_of_mem (h : name ∈ kept) :
    missing kept (name :: names) = missing kept names := by
  simp [missing, h]

theorem missing_cons_of_not_mem (h : name ∉ kept) :
    missing kept (name :: names) = name :: missing (kept ++ [name]) names := by
  have hfilter : (names.filter (· ∉ kept)).filter (fun other => !other == name) =
      names.filter (· ∉ kept ++ [name]) := by
    rw [List.filter_filter]
    refine List.filter_congr fun other _ => ?_
    by_cases hother : other = name <;> simp [hother]
  rw [missing, List.filter_cons_of_pos (by simpa using h), List.eraseDups_cons, hfilter, missing]

/-- Adding names one after another puts those that are missing behind the kept ones. -/
theorem foldl_addMissing (kept names : List String) :
    names.foldl addMissing kept = kept ++ missing kept names := by
  induction names generalizing kept with
  | nil => simp [missing]
  | cons name names ih =>
    rw [List.foldl_cons, ih, addMissing]
    by_cases h : name ∈ kept
    · rw [if_pos h, missing_cons_of_mem h]
    · rw [if_neg h, missing_cons_of_not_mem h, List.append_assoc, List.singleton_append]

theorem missing_eq_nil (h : ∀ name ∈ names, name ∈ kept) : missing kept names = [] := by
  refine List.eq_nil_iff_forall_not_mem.2 fun name hname => ?_
  obtain ⟨hmem, hnot⟩ := mem_missing.1 hname
  exact hnot (h name hmem)

theorem missing_missing (kept names : List String) :
    missing kept (missing kept names) = missing kept names := by
  induction names generalizing kept with
  | nil => rfl
  | cons name names ih =>
    by_cases h : name ∈ kept
    · rw [missing_cons_of_mem h, ih]
    · rw [missing_cons_of_not_mem h, missing_cons_of_not_mem h, ih]

theorem nodup_missing (kept names : List String) : (missing kept names).Nodup := by
  induction names generalizing kept with
  | nil => exact List.nodup_nil
  | cons name names ih =>
    by_cases h : name ∈ kept
    · rw [missing_cons_of_mem h]
      exact ih kept
    · rw [missing_cons_of_not_mem h]
      have hkept : name ∈ kept ++ [name] := List.mem_append_right _ (List.mem_singleton_self _)
      exact List.nodup_cons.2 ⟨fun hmem => (mem_missing.1 hmem).2 hkept, ih _⟩

end Missing

/-- Both sides' entries, with the desired value wherever there is one. -/
structure Unites (current desired united : Option (SortedMap String)) : Prop where
  present : united.isSome = (current.isSome || desired.isSome)
  entries : ∀ key, (united.getD .empty).find? key =
    ((desired.getD .empty).find? key).or ((current.getD .empty).find? key)

theorem unites_mergeEntries (current desired : Option (SortedMap String)) :
    Unites current desired (mergeEntries current desired) := by
  refine ⟨?_, find?_mergeEntries current desired⟩
  cases current <;> simp [mergeEntries]

theorem mergeEntries_again (current desired : Option (SortedMap String)) :
    mergeEntries current (mergeEntries current desired) = mergeEntries current desired := by
  cases current with
  | none => rfl
  | some current => exact congrArg some (SortedMap.override_overridden ..)

theorem mergeEntries_onto (current desired : Option (SortedMap String)) :
    mergeEntries (mergeEntries current desired) desired = mergeEntries current desired := by
  cases current with
  | some current => exact congrArg some (SortedMap.override_override ..)
  | none =>
    cases desired with
    | none => rfl
    | some desired => exact congrArg some desired.override_self

/-- The desired names in front, and behind them, each once, the ones that only the current object
has. -/
structure Prolongs (current desired joined : Option (List String)) : Prop where
  present : joined.isSome = (current.isSome || desired.isSome)
  names : joined.getD [] = desired.getD [] ++ missing (desired.getD []) (current.getD [])
  once : (missing (desired.getD []) (current.getD [])).Nodup
  kept : ∀ name, name ∈ joined.getD [] ↔ name ∈ desired.getD [] ∨ name ∈ current.getD []

theorem mergeFinalizers_some (current : List String) (desired : Option (List String)) :
    mergeFinalizers (some current) desired =
      some (desired.getD [] ++ missing (desired.getD []) current) :=
  congrArg some (foldl_addMissing ..)

theorem mem_append_missing {kept names : List String} {name : String} :
    name ∈ kept ++ missing kept names ↔ name ∈ kept ∨ name ∈ names := by
  rw [List.mem_append, mem_missing]
  by_cases h : name ∈ kept <;> simp [h]

theorem prolongs_mergeFinalizers (current desired : Option (List String)) :
    Prolongs current desired (mergeFinalizers current desired) := by
  have hnames : (mergeFinalizers current desired).getD [] =
      desired.getD [] ++ missing (desired.getD []) (current.getD []) := by
    cases current with
    | none => exact (List.append_nil _).symm
    | some current => rw [mergeFinalizers_some, Option.getD_some, Option.getD_some]
  refine ⟨?_, hnames, nodup_missing .., fun name => ?_⟩
  · cases current <;> rfl
  · rw [hnames, mem_append_missing]

theorem mergeFinalizers_again (current desired : Option (List String)) :
    mergeFinalizers current (mergeFinalizers current desired) =
      mergeFinalizers current desired := by
  cases current with
  | none => rfl
  | some current =>
    have hnone : missing (desired.getD [] ++ missing (desired.getD []) current) current = [] :=
      missing_eq_nil fun name hname => mem_append_missing.2 (.inr hname)
    rw [mergeFinalizers_some, mergeFinalizers_some, Option.getD_some, hnone, List.append_nil]

theorem mergeFinalizers_onto (current desired : Option (List String)) :
    mergeFinalizers (mergeFinalizers current desired) desired =
      mergeFinalizers current desired := by
  cases current with
  | none =>
    cases desired with
    | none => rfl
    | some desired =>
      have hnone : missing desired desired = [] := missing_eq_nil fun _ hname => hname
      change mergeFinalizers (some desired) (some desired) = some desired
      rw [mergeFinalizers_some, Option.getD_some, hnone, List.append_nil]
  | some current =>
    -- Of the joined names the desired ones are not missing, and all the others are.
    have hsplit (kept names : List String) : missing kept (kept ++ names) = missing kept names := by
      have hkept : kept.filter (· ∉ kept) = [] :=
        List.filter_eq_nil_iff.2 fun name hname => by simpa using hname
      rw [missing, List.filter_append, hkept, List.nil_append, missing]
    rw [mergeFinalizers_some, mergeFinalizers_some, hsplit, missing_missing]

namespace ObjectMeta

/-- What of the metadata is never taken from the current object. -/
def outline (m : ObjectMeta) : ObjectMeta :=
  { m with resourceVersion := none, labels := none, annotations := none, finalizers := none }

/-- The metadata of an object that replaces the current one. -/
structure Replaces (current desired migrated : ObjectMeta) : Prop where
  resourceVersion : migrated.resourceVersion = current.resourceVersion
  labels : Unites current.labels desired.labels migrated.labels
  annotations : Unites current.annotations desired.annotations migrated.annotations
  finalizers : Prolongs current.finalizers desired.finalizers migrated.finalizers
  rest : migrated.outline = desired.outline

variable (current desired : ObjectMeta)

theorem replaces_migrate : Replaces current desired (current.migrate desired) where
  resourceVersion := rfl
  labels := unites_mergeEntries ..
  annotations := unites_mergeEntries ..
  finalizers := prolongs_mergeFinalizers ..
  rest := rfl

theorem migrate_again : current.migrate (current.migrate desired) = current.migrate desired := by
  simp only [migrate, mergeEntries_again, mergeFinalizers_again]

theorem migrate_onto : (current.migrate desired).migrate desired = current.migrate desired := by
  simp only [migrate, mergeEntries_onto, mergeFinalizers_onto]

end ObjectMeta

namespace Resource

variable {kind : Kind}

/-- The version that is asked for is found afterwards, so that nothing is left to do. -/
theorem isCurrent_migrateMeta (current desired : Resource kind) :
    Reconcile.isCurrent (current.migrateMeta desired) desired = desired.version?.isSome := by
  have hversion : (current.migrateMeta desired).version? = desired.version?.or current.version? :=
    version?_of_migrate rfl
  rw [Reconcile.isCurrent, hversion]
  cases desired.version? <;> simp

theorem migrate_of_ne_service (h : kind ≠ .service) (current desired : Resource kind) :
    current.migrate desired = .ok (current.migrateMeta desired) := by
  cases kind with
  | service => exact absurd rfl h
  | configMap | statefulSet | disruptionBudget => rfl

end Resource

/-- The metadata of a migrated object has what either side has, the desired values first, and all
else of the object is as desired. To migrate it again, or to migrate the same desired object onto
it, makes no difference. The kinds with nothing else to keep are migrated so, and the metadata of
Services too. -/
theorem metadata_migrates {kind : Kind} (current desired : Resource kind) :
    let migrated := current.migrateMeta desired
    migrated.body = desired.body ∧ current.metadata.Replaces desired.metadata migrated.metadata ∧
      Reconcile.isCurrent migrated desired = desired.version?.isSome ∧
      current.migrateMeta migrated = migrated ∧ migrated.migrateMeta desired = migrated ∧
      (kind ≠ .service → current.migrate desired = .ok migrated) ∧
      ∀ other, current.migrate desired = .ok other → other.metadata = migrated.metadata := by
  refine ⟨rfl, ObjectMeta.replaces_migrate .., Resource.isCurrent_migrateMeta .., ?_, ?_,
    fun h => Resource.migrate_of_ne_service h .., fun other h => Resource.metadata_of_migrate h⟩
  · exact congrArg (Resource.mk · desired.body) (ObjectMeta.migrate_again ..)
  · exact congrArg (Resource.mk · desired.body) (ObjectMeta.migrate_onto ..)

/-- A ConfigMap that others have labelled and finalized. -/
def adorned : Resource .configMap where
  metadata := {
    finalizers := some ["ops/keep", "ours/keep", "ops/audit", "ops/keep"]
    labels := some (.ofList [("app", "old"), ("owner", "ops")])
    resourceVersion := some "7" }
  body := { data := some (.ofList [("a.xml", "old")]) }

/-- The same ConfigMap as it is to be. -/
def unadorned : Resource .configMap where
  metadata := {
    annotations := some (SortedMap.empty.insert versionAnnotation "2")
    finalizers := some ["ours/keep"]
    labels := some (.ofList [("app", "new")]) }
  body := { data := some (.ofList [("a.xml", "new")]) }

/-- The general result where each side has something that the other lacks. -/
theorem metadata_migrates_adorned :
    ∃ migrated, Kind.configMap ≠ .service ∧ adorned.migrate unadorned = .ok migrated ∧
      migrated.body = unadorned.body ∧
      migrated.metadata.finalizers = some ["ours/keep", "ops/keep", "ops/audit"] ∧
      (migrated.metadata.labels.getD .empty).find? "app" = some "new" ∧
      (migrated.metadata.labels.getD .empty).find? "owner" = some "ops" ∧
      Reconcile.isCurrent migrated unadorned = true ∧
      adorned.migrate migrated = .ok migrated ∧ migrated.migrate unadorned = .ok migrated := by
  have hkind : Kind.configMap ≠ .service := by decide
  obtain ⟨hbody, hreplaces, hcurrent, hagain, honto, hmigrate, -⟩ :=
    metadata_migrates adorned unadorned
  refine ⟨_, hkind, hmigrate hkind, hbody, rfl, ?_, ?_, hcurrent, ?_, ?_⟩
  · exact hreplaces.labels.entries "app"
  · exact hreplaces.labels.entries "owner"
  · exact (Resource.migrate_of_ne_service hkind ..).trans (congrArg Except.ok hagain)
  · exact (Resource.migrate_of_ne_service hkind ..).trans (congrArg Except.ok honto)

end ShardOperator
