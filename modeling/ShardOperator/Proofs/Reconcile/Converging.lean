import ShardOperator.Proofs.Reconcile.Stages

namespace ShardOperator.Blueprint

open Program Simulation Reconcile

variable {b : Blueprint} (regarding : Regarding)

section Placed

variable (placed : b.installation.Placed) (spare : b.installation.templates.SpareLabels)

include placed spare

theorem name_mem_of_mem_objects (kind : Kind) (object : Resource kind)
    (h : object ∈ b.objects kind) : object.name ∈ b.installation.objectNames kind := by
  obtain ⟨name, hname, hbuilt⟩ := built_of_mem_objects placed spare h
  rw [hbuilt.name]
  exact hname

theorem stage_reconcileObject {kind : Kind} {desired : Resource kind}
    (hmem : desired ∈ b.objects kind) :
    b.Stage (fun report => do return report.record (← reconcileObject regarding desired))
      (· = .stands kind desired.name) := by
  obtain ⟨name, hname, hbuilt⟩ := built_of_mem_objects placed spare hmem
  rw [hbuilt.name]
  exact (attempt_reconcileObject hmem hbuilt hname).record

/-- The common files, once no host has failed. -/
theorem stage_reconcileCommon :
    b.Stage (fun report => reconcileCommon b regarding .none report)
      (· = .stands .configMap b.installation.commonConfigMapName) :=
  stage_reconcileObject regarding placed spare mem_objects_commonConfigMap

theorem stage_reconcileWanted {name : String} {wanted : Outcome (Option (Resource .service))}
    (h : ∀ desired, wanted = .ok (some desired) →
      desired ∈ b.objects .service ∧ desired.name = name) :
    b.Stage (fun report => reconcileWanted regarding report wanted) fun goal =>
      (isWanted wanted = true ∧ goal = .stands .service name) ∨
        goal = .holds (wanted.isOk = true) := by
  match wanted with
  | .ok (some desired) =>
    obtain ⟨hmem, hname⟩ := h desired rfl
    have stage := stage_reconcileObject regarding placed spare hmem
    refine ⟨stage.only, fun tidy run hsuccess => ?_⟩
    obtain ⟨hreport, hfailed, hgoals⟩ := stage.achieves tidy run hsuccess
    refine ⟨hreport, hfailed, fun goal hgoal => ?_⟩
    rcases hgoal with (⟨-, rfl⟩ | rfl) | hgoal
    · exact hgoals _ (.inl (by rw [hname]))
    · exact (rfl : Except.isOk (.ok (some desired)) = true)
    · exact hgoals goal (.inr hgoal)
  | .ok none =>
    refine ⟨fun report => only_pure _, fun tidy run hsuccess => ?_⟩
    obtain ⟨rfl, rfl⟩ := runs_pure.1 run
    refine ⟨hsuccess, rfl, fun goal hgoal => ?_⟩
    rcases hgoal with (⟨hwanted, -⟩ | rfl) | hgoal
    · cases hwanted
    · exact (rfl : Except.isOk (.ok none) = true)
    · exact hgoal
  | .error e =>
    refine ⟨fun report => only_pure _, fun tidy run hsuccess => ?_⟩
    obtain ⟨rfl, -⟩ := runs_pure.1 run
    rw [PassReport.isSuccess_recordFailure] at hsuccess
    cases hsuccess

/-- The Service, the ConfigMap and the workload of a host come to be in their places. -/
theorem stage_reconcileHost {host : Host} (hhost : host ∈ b.installation.hosts) :
    b.Stage (fun report => reconcileHost b regarding report host) fun goal =>
      goal = .stands .service host.address.workloadName ∨
        goal = .holds ((b.hostService host).isOk = true) ∨
        goal = .stands .configMap host.address.configMapName ∨
        goal = .stands .statefulSet host.address.workloadName := by
  have service : b.Attempt (reconcileBuilt regarding (b.hostService host)) fun goal =>
      goal = .stands .service host.address.workloadName ∨
        goal = .holds ((b.hostService host).isOk = true) :=
    attempt_reconcileBuilt (fun desired h =>
      ⟨mem_objects_hostService hhost h, built_hostService placed spare hhost h⟩)
      (Installation.mem_objectNames_hostService hhost)
  have configMap : b.Attempt (reconcileObject regarding (b.hostConfigMap host))
      (· = .stands .configMap host.address.configMapName) :=
    attempt_reconcileObject (mem_objects_hostConfigMap hhost) (built_hostConfigMap placed hhost)
      (Installation.mem_objectNames_hostConfigMap hhost)
  have workload : b.Attempt (reconcileObject regarding (b.workload host))
      (· = .stands .statefulSet host.address.workloadName) :=
    attempt_reconcileObject (List.mem_map_of_mem hhost) (built_workload placed hhost)
      (List.mem_map_of_mem hhost)
  refine ⟨fun report => only_reconcileHost (permits_owns placed spare) hhost,
    fun {report s report' last} tidy run hsuccess => ?_⟩
  obtain ⟨o₁, s₁, o₂, s₂, o₃, run₁, run₂, run₃, hall, hfailed⟩ := runs_reconcileHost run
  obtain ⟨hreport, ok₁, ok₂, ok₃⟩ := hall.1 hsuccess
  have after₁ := service.achieves run₁ ok₁
  have after₂ := configMap.achieves run₂ ok₂
  have after₃ := workload.achieves run₃ ok₃
  refine ⟨hreport, hfailed hsuccess, fun goal hgoal => ?_⟩
  rcases hgoal with (hgoal | hgoal | hgoal | hgoal) | hgoal
  · exact after₃ goal (.inr (after₂ goal (.inr (after₁ goal (.inl (.inl hgoal))))))
  · exact after₃ goal (.inr (after₂ goal (.inr (after₁ goal (.inl (.inr hgoal))))))
  · exact after₃ goal (.inr (after₂ goal (.inl hgoal)))
  · exact after₃ goal (.inl hgoal)
  · exact after₃ goal (.inr (after₂ goal (.inr (after₁ goal (.inr hgoal)))))

/-- The address of a host that has no place in the installation, so that none of its objects has. -/
structure Stray (b : Blueprint) (host : Host) : Prop where
  ns : host.ns = b.installation.ns
  installation : host.address.installation = b.installation.name
  unclaimed : host.address.workloadName ∉ b.installation.objectNames .statefulSet

/-- A workload without a place is taken down, and nothing that is wanted with it. -/
theorem stage_removeHost {host : Host} (stray : b.Stray host) :
    b.Stage (fun report => removeHost regarding report host)
      (· = .clear .statefulSet host.address.workloadName) := by
  have named := name_mem_of_mem_objects placed spare
  have workload : b.Attempt (deleteObject regarding .statefulSet b.installation.ns
      host.address.workloadName) (· = .clear .statefulSet host.address.workloadName) :=
    attempt_deleteObject stray.unclaimed named
  have service : b.Attempt (deleteObject regarding .service b.installation.ns
      host.address.workloadName) (· = .clear .service host.address.workloadName) :=
    attempt_deleteObject (Installation.workloadName_notMem_services stray.unclaimed) named
  have configMap : b.Attempt (deleteObject regarding .configMap b.installation.ns
      host.address.configMapName) (· = .clear .configMap host.address.configMapName) :=
    attempt_deleteObject (Installation.configMapName_notMem_configMaps placed stray.installation
      stray.unclaimed) named
  rw [← stray.ns] at workload service configMap
  refine ⟨fun report => only_removeHost (permits_owns placed spare) host,
    fun {report s report' last} tidy run hsuccess => ?_⟩
  obtain ⟨o₁, s₁, o₂, s₂, o₃, run₁, run₂, run₃, hall, hfailed⟩ := runs_removeHost And.left run
  obtain ⟨hreport, ok₁, ok₂, ok₃⟩ := hall.1 hsuccess
  have after₁ := workload.achieves run₁ ok₁
  have after₂ := service.achieves run₂ ok₂
  have after₃ := configMap.achieves run₃ ok₃
  exact ⟨hreport, hfailed hsuccess, fun goal hgoal =>
    after₃ goal (.inr (after₂ goal (.inr (after₁ goal hgoal))))⟩

/-- What the part of a pass that sees to a cluster brings about. -/
def ClusterGains (b : Blueprint) (c : Cluster) (goal : Goal) : Prop :=
  (∃ name ∈ b.installation.clusterServices c, goal = .stands .service name) ∨
    goal = .holds ((b.clusterService? c).isOk = true) ∨
    (∃ shard ∈ c.shards, goal = .holds ((b.shardService? c shard).isOk = true)) ∨
    goal = .stands .disruptionBudget c.budgetName

/-- The Services of a cluster and of its shards, and its budget, come to be in their places. -/
theorem stage_reconcileCluster {c : Cluster} (hc : c ∈ b.installation.clusters) :
    b.Stage (fun report => reconcileCluster b regarding report c) (b.ClusterGains c) := by
  have own : b.Stage (fun report => reconcileWanted regarding report (b.clusterService? c))
      fun goal =>
        (isWanted (b.clusterService? c) = true ∧ goal = .stands .service c.serviceName) ∨
          goal = .holds ((b.clusterService? c).isOk = true) :=
    stage_reconcileWanted regarding placed spare fun desired h =>
      ⟨mem_objects_clusterService hc h, (built_clusterService placed spare hc h).name⟩
  have shards := stage_foldlM fun shard (hshard : shard ∈ c.shards) =>
    stage_reconcileWanted regarding placed spare fun desired h =>
      ⟨mem_objects_shardService hc hshard h, (built_shardService placed spare hc h).name⟩
  have budget : b.Stage (fun report => do
      return report.record (← reconcileObject regarding (b.budget c)))
      (· = .stands .disruptionBudget (b.budget c).name) :=
    stage_reconcileObject regarding placed spare (List.mem_map_of_mem hc)
  rw [(built_budget placed hc).name] at budget
  refine (own.bind (shards.bind budget)).mono fun goal hgoal => ?_
  rcases hgoal with ⟨name, hname, rfl⟩ | hgoal | ⟨shard, hshard, hgoal⟩ | hgoal
  · rcases List.mem_append.1 hname with hname | hname
    · split at hname
      · next hresolves =>
        refine .inl (.inl ⟨?_, by rw [List.mem_singleton.1 hname]⟩)
        rw [isWanted_clusterService?]
        exact hresolves
      · cases hname
    · obtain ⟨shard, hshard, rfl⟩ := List.mem_map.1 hname
      obtain ⟨hshard, hresolves⟩ := List.mem_filter.1 hshard
      refine .inr (.inl ⟨shard, hshard, .inl ⟨?_, rfl⟩⟩)
      rw [isWanted_shardService?]
      exact hresolves
  · exact .inl (.inr hgoal)
  · exact .inr (.inl ⟨shard, hshard, .inr hgoal⟩)
  · exact .inr (.inr hgoal)

/-- What the part of a pass that sees to the installation as a whole brings about. -/
def SharedGains (b : Blueprint) (goal : Goal) : Prop :=
  goal = .stands .configMap b.installation.usersConfigMapName ∨
    (goal = .stands .service b.installation.serviceName ∨
      goal = .holds (b.installationService.isOk = true)) ∨
    ∃ c ∈ b.installation.clusters, b.ClusterGains c goal

theorem stage_reconcileShared :
    b.Stage (fun report => reconcileShared b regarding report) b.SharedGains := by
  have users : b.Stage (fun report => do
      return report.record (← reconcileObject regarding b.usersConfigMap))
      (· = .stands .configMap b.installation.usersConfigMapName) :=
    stage_reconcileObject regarding placed spare mem_objects_usersConfigMap
  have service : b.Attempt (reconcileBuilt regarding b.installationService) fun goal =>
      goal = .stands .service b.installation.serviceName ∨
        goal = .holds (b.installationService.isOk = true) :=
    attempt_reconcileBuilt (fun desired h =>
      ⟨mem_objects_installationService h, built_installationService spare h⟩)
      (List.mem_cons_self ..)
  have clusters := stage_foldlM fun c (hc : c ∈ b.installation.clusters) =>
    stage_reconcileCluster regarding placed spare hc
  have shared := users.bind (service.record.bind clusters)
  simp only [LawfulMonad.bind_assoc, LawfulMonad.pure_bind] at shared
  exact shared

theorem stage_sweepObject {kind : Kind} {object : Resource kind}
    (hname : object.anyName ∉ b.installation.objectNames kind) :
    b.Stage (fun report => sweepObject b regarding report object)
      (· = .clear kind object.anyName) := by
  have attempt : b.Attempt (deleteObject regarding kind b.installation.ns object.anyName)
      (· = .clear kind object.anyName) :=
    attempt_deleteObject hname (name_mem_of_mem_objects placed spare)
  refine ⟨fun report => attempt.only.bind fun outcome => ?_,
    fun {report s report' last} tidy run hsuccess => ?_⟩
  · cases outcome <;> exact only_pure _
  · obtain ⟨outcome, mid, hrun, hdone⟩ := runs_bind.1 run
    cases outcome with
    | ok done =>
      obtain ⟨rfl, rfl⟩ := runs_pure.1 hdone
      exact ⟨hsuccess, rfl, attempt.achieves hrun rfl⟩
    | error e =>
      obtain ⟨rfl, -⟩ := runs_pure.1 hdone
      rw [PassReport.isSuccess_recordFailure] at hsuccess
      cases hsuccess

omit placed spare in
/-- What the installation has no use for is stale, if it is as the operator writes it. -/
theorem mem_staleObjects {kind : Kind} {name : String} {object : Resource kind}
    {existing : List (Resource kind)} (hname : name ∉ b.installation.objectNames kind)
    (hbelongs : Belongs b.installation.identity object) (hobject : object.name = name)
    (hmem : object ∈ existing) : object ∈ b.staleObjects existing ∧ object.anyName = name := by
  have hany : object.anyName = name := hbelongs.anyName.trans hobject
  refine ⟨List.mem_filter.2 ⟨hmem, ?_⟩, hany⟩
  have howner : b.isOwner object = true := by
    have howned := hbelongs.owned
    unfold isOwner
    cases huid : b.installation.uid with
    | none => rfl
    | some uid => exact howned uid huid
  rw [desiredNames_eq, howner, hany]
  simpa using hname

/-- Nothing of a kind is left that the installation has no use for. -/
theorem stage_sweepKind (kind : Kind) :
    b.Stage (fun report => sweepKind b regarding report kind) fun goal =>
      ∃ name, name ∉ b.installation.objectNames kind ∧ goal = .clear kind name := by
  refine ⟨fun report => only_sweepKind (permits_owns placed spare) kind,
    fun {report s report' last} tidy run hsuccess => ?_⟩
  obtain ⟨reply, mid, hlist, onward⟩ := runs_bind.1 run
  cases reply with
  | error e =>
    obtain ⟨rfl, -⟩ := runs_pure.1 onward
    rw [PassReport.isSuccess_recordFailure] at hsuccess
    cases hsuccess
  | ok existing =>
    have hlists : s.Lists kind b.installation.ns b.installation.selector existing ∧ mid = s := by
      rcases (runs_call.1 hlist).1 with ⟨⟨objects, h, hlists⟩, hmid⟩ | ⟨-, e, h⟩
      · obtain rfl := Except.ok.inj h
        exact ⟨hlists, hmid⟩
      · cases h
    obtain ⟨hlists, hmid⟩ := hlists
    subst hmid
    have hstale (object : Resource kind) (hobject : object ∈ b.staleObjects existing) :
        object.anyName ∉ b.installation.objectNames kind := by
      have hkept := (List.mem_filter.1 hobject).2
      rw [desiredNames_eq] at hkept
      intro hmem
      simp [hmem] at hkept
    have stale := stage_foldlM fun object hobject =>
      stage_sweepObject regarding placed spare (hstale object hobject)
    obtain ⟨hreport, hfailed, hgoals⟩ := stale.achieves tidy onward hsuccess
    refine ⟨hreport, hfailed, fun goal hgoal => ?_⟩
    rcases hgoal with ⟨name, hname, rfl⟩ | hmeets
    · by_cases hclear : b.Meets mid (.clear kind name)
      · exact hgoals _ (.inr hclear)
      · obtain ⟨object, hfind, hcarries⟩ : ∃ object,
            mid.find? kind b.installation.ns name = some object ∧
              object.Carries b.installation.selector := by
          simpa [Meets, hname] using hclear
        obtain ⟨hbelongs, hobject⟩ := tidy kind name object hfind hcarries
        have hmem : object ∈ existing := (hlists object).2 ⟨⟨name, hfind⟩, hcarries⟩
        obtain ⟨hmem, hany⟩ := mem_staleObjects hname hbelongs hobject hmem
        exact hgoals _ (.inl ⟨object, hmem, by rw [hany]⟩)
    · exact hgoals goal (.inr hmeets)

theorem stage_sweep :
    b.Stage (fun report => sweep b regarding report) fun goal =>
      ∃ kind ∈ sweptKinds, ∃ name, name ∉ b.installation.objectNames kind ∧
        goal = .clear kind name :=
  stage_foldlM fun kind _ => stage_sweepKind regarding placed spare kind

omit placed spare in
/-- What does not change any object keeps up what was brought about. -/
theorem meets_congr {s last : Stores}
    (h : ∀ kind ns name, last.find? kind ns name = s.find? kind ns name) {goal : Goal}
    (hgoal : b.Meets s goal) : b.Meets last goal := by
  cases goal with
  | stands kind name =>
    obtain ⟨desired, hmem, hname, object, hfind, hversion⟩ := hgoal
    exact ⟨desired, hmem, hname, object, by rw [h, hfind], hversion⟩
  | clear kind name =>
    refine ⟨hgoal.1, fun object hfind => hgoal.2 object ?_⟩
    rw [← h, hfind]
  | holds fact => exact hgoal

omit placed spare in
theorem stage_dropDnsCaches (i : Installation) :
    b.Stage (fun report => do
      if 0 < report.hostsAdded || 0 < report.hostsRemoved then dropDnsCaches i report
      return report) fun _ => False := by
  have only {allowed : Request → Prop} (hdrop : ∀ hostname, allowed (.dropDnsCache hostname))
      (report : PassReport) : Only allowed (do
        if 0 < report.hostsAdded || 0 < report.hostsRemoved then dropDnsCaches i report
        return report) := by
    by_cases hnews : (0 < report.hostsAdded || 0 < report.hostsRemoved) = true
    · rw [if_pos hnews]
      exact (only_dropDnsCaches hdrop).bind fun _ => only_pure _
    · rw [if_neg hnews]
      exact (only_pure _).bind fun _ => only_pure _
  refine ⟨only fun _ => trivial, fun {report s report' last} tidy run hsuccess => ?_⟩
  have hkept (kind : Kind) (ns name : String) :
      last.find? kind ns name = s.find? kind ns name :=
    (run.mono And.left).find?_eq <| only (fun _ e => nomatch e) report
  have hreport : report' = report := eq_of_runs_dropDnsCaches run
  subst hreport
  exact ⟨hsuccess, rfl, fun goal hgoal => hgoal.elim False.elim (meets_congr hkept)⟩

/-- What the part of a pass that sees to the hosts brings about. -/
def HostGains (b : Blueprint) (goal : Goal) : Prop :=
  (∃ host ∈ b.installation.hosts, goal = .stands .service host.address.workloadName ∨
    goal = .holds ((b.hostService host).isOk = true) ∨
    goal = .stands .configMap host.address.configMapName ∨
    goal = .stands .statefulSet host.address.workloadName) ∨
  ∃ host ∈ b.installation.removed, goal = .clear .statefulSet host.address.workloadName

/-- The part of a pass between the two writings of the common files. -/
theorem stage_hosts (stray : ∀ host ∈ b.installation.removed, b.Stray host) :
    b.Stage (fun report => do
      let report ← b.installation.hosts.foldlM (reconcileHost b regarding) report
      b.installation.removed.foldlM (removeHost regarding) report) b.HostGains :=
  (stage_foldlM fun _ hhost => stage_reconcileHost regarding placed spare hhost).bind
    (stage_foldlM fun host hhost => stage_removeHost regarding placed spare (stray host hhost))

/-- The part of a pass after the second writing of the common files. -/
theorem stage_shared :
    b.Stage (fun report => do
      let report ← reconcileShared b regarding report
      let report ← sweep b regarding report
      if 0 < report.hostsAdded || 0 < report.hostsRemoved then dropDnsCaches b.installation report
      return report) fun goal => b.SharedGains goal ∨
        ∃ kind ∈ sweptKinds, ∃ name, name ∉ b.installation.objectNames kind ∧
          goal = .clear kind name := by
  have shared := (stage_reconcileShared regarding placed spare).bind <|
    (stage_sweep regarding placed spare).bind (stage_dropDnsCaches b.installation)
  refine shared.mono fun goal hgoal => ?_
  rcases hgoal with hgoal | hgoal
  · exact .inl hgoal
  · exact .inr (.inl hgoal)

omit placed spare in
theorem isSuccess_reconcileCommon {e : Exclusion} {report report' : PassReport} {s last : Stores}
    (run : Runs Stores.ServesTruly (reconcileCommon b regarding e report) s report' last)
    (hsuccess : report'.isSuccess = true) :
    report.isSuccess = true ∧ report'.failedHosts = report.failedHosts := by
  obtain ⟨outcome, mid, -, hdone⟩ := runs_bind.1 run
  obtain ⟨rfl, -⟩ := runs_pure.1 hdone
  exact ⟨(PassReport.isSuccess_record.1 hsuccess).1, report.failedHosts_record outcome⟩

/-- A pass without failures brings about all that its parts do. -/
theorem meets_converge {s last : Stores} {report : PassReport}
    (stray : ∀ host ∈ b.installation.removed, b.Stray host)
    (tidy : b.installation.identity.Tidy s)
    (run : Runs Stores.ServesTruly (converge b regarding) s report last)
    (hsuccess : report.isSuccess = true) (goal : Goal)
    (hgoal : b.HostGains goal ∨ goal = .stands .configMap b.installation.commonConfigMapName ∨
      b.SharedGains goal ∨ ∃ kind ∈ sweptKinds, ∃ name,
        name ∉ b.installation.objectNames kind ∧ goal = .clear kind name) :
    b.Meets last goal := by
  have hosts := stage_hosts regarding placed spare stray
  have common := stage_reconcileCommon regarding placed spare
  have shared := stage_shared regarding placed spare
  obtain ⟨first, s₁, run₁, run⟩ := runs_bind.1 run
  obtain ⟨second, s₂, run₂, run⟩ := runs_bind.1 run
  obtain ⟨third, s₃, run₃, run⟩ := runs_bind.1 run
  obtain ⟨fourth, s₄, run₄, run₅⟩ := runs_bind.1 run
  have runHosts : Runs Stores.ServesTruly (do
      let report ← b.installation.hosts.foldlM (reconcileHost b regarding) first
      b.installation.removed.foldlM (removeHost regarding) report) s₁ third s₃ :=
    runs_bind.2 ⟨second, s₂, run₂, run₃⟩
  have tidy₁ := tidy_of_only (only_reconcileCommon (permits_owns placed spare) _) run₁ tidy
  have tidy₃ := tidy_of_only (hosts.only first) runHosts tidy₁
  have tidy₄ := tidy_of_only (only_reconcileCommon (permits_owns placed spare) _) run₄ tidy₃
  -- Success is known at the end and is followed back to where no host has failed yet.
  obtain ⟨success₄, -, after₅⟩ := shared.achieves tidy₄ run₅ hsuccess
  obtain ⟨success₃, -⟩ := isSuccess_reconcileCommon regarding run₄ success₄
  obtain ⟨success₁, failed₃, after₃⟩ := hosts.achieves tidy₁ runHosts success₃
  have failed₁ : first.failedHosts = [] := (isSuccess_reconcileCommon regarding run₁ success₁).2
  have hpeers : peersAfter third = .none := by
    rw [peersAfter, failed₃, failed₁]
    rfl
  rw [hpeers] at run₄
  obtain ⟨-, -, after₄⟩ := common.achieves tidy₃ run₄ success₄
  rcases hgoal with hgoal | hgoal | hgoal | hgoal
  · exact after₅ goal (.inr (after₄ goal (.inr (after₃ goal (.inl hgoal)))))
  · exact after₅ goal (.inr (after₄ goal (.inl hgoal)))
  · exact after₅ goal (.inl (.inl hgoal))
  · exact after₅ goal (.inl (.inr hgoal))

/-- A pass without failures has every object of the installation in its place, has cleared away what
it has no use for, and could build every Service. -/
theorem converged {s last : Stores} {report : PassReport}
    (stray : ∀ host ∈ b.installation.removed, b.Stray host)
    (tidy : b.installation.identity.Tidy s)
    (run : Runs Stores.ServesTruly (converge b regarding) s report last)
    (hsuccess : report.isSuccess = true) :
    (∀ kind, ∀ name ∈ b.installation.objectNames kind, b.Meets last (.stands kind name)) ∧
      (∀ kind ∈ sweptKinds, ∀ name, name ∉ b.installation.objectNames kind →
        b.Meets last (.clear kind name)) ∧
      (∀ host ∈ b.installation.removed,
        b.Meets last (.clear .statefulSet host.address.workloadName)) ∧ b.Buildable := by
  have meets := meets_converge regarding placed spare stray tidy run hsuccess
  refine ⟨fun kind name hname => ?_, fun kind hkind name hname => ?_, fun host hhost => ?_, ?_⟩
  · cases kind with
    | service =>
      rcases List.mem_cons.1 hname with rfl | hname
      · exact meets _ (.inr (.inr (.inl (.inr (.inl (.inl rfl))))))
      · rcases List.mem_append.1 hname with hname | hname
        · obtain ⟨c, hc, hname⟩ := List.mem_flatMap.1 hname
          exact meets _ (.inr (.inr (.inl (.inr (.inr ⟨c, hc, .inl ⟨name, hname, rfl⟩⟩)))))
        · obtain ⟨host, hhost, rfl⟩ := List.mem_map.1 hname
          exact meets _ (.inl (.inl ⟨host, hhost, .inl rfl⟩))
    | configMap =>
      rcases List.mem_cons.1 hname with rfl | hname
      · exact meets _ (.inr (.inl rfl))
      · rcases List.mem_cons.1 hname with rfl | hname
        · exact meets _ (.inr (.inr (.inl (.inl rfl))))
        · obtain ⟨host, hhost, rfl⟩ := List.mem_map.1 hname
          exact meets _ (.inl (.inl ⟨host, hhost, .inr (.inr (.inl rfl))⟩))
    | statefulSet =>
      obtain ⟨host, hhost, rfl⟩ := List.mem_map.1 hname
      exact meets _ (.inl (.inl ⟨host, hhost, .inr (.inr (.inr rfl))⟩))
    | disruptionBudget =>
      obtain ⟨c, hc, rfl⟩ := List.mem_map.1 hname
      exact meets _ (.inr (.inr (.inl (.inr (.inr ⟨c, hc, .inr (.inr (.inr rfl))⟩)))))
  · exact meets _ (.inr (.inr (.inr ⟨kind, hkind, name, hname, rfl⟩)))
  · exact meets _ (.inl (.inr ⟨host, hhost, rfl⟩))
  · constructor
    · exact meets (.holds _) (.inr (.inr (.inl (.inr (.inl (.inr rfl))))))
    · intro host hhost
      exact meets (.holds _) (.inl (.inl ⟨host, hhost, .inr (.inl rfl)⟩))
    · intro c hc
      exact meets (.holds _) (.inr (.inr (.inl (.inr (.inr ⟨c, hc, .inr (.inl rfl)⟩)))))
    · intro c hc shard hshard
      exact meets (.holds _)
        (.inr (.inr (.inl (.inr (.inr ⟨c, hc, .inr (.inr (.inl ⟨shard, hshard, rfl⟩))⟩)))))

end Placed

end ShardOperator.Blueprint
