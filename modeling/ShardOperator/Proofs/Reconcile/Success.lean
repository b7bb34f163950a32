import ShardOperator.Proofs.Reconcile.History
import ShardOperator.Proofs.Reconcile.Stages

namespace ShardOperator

open Program Simulation Reconcile

namespace Simulation.Stores

variable {s after : Stores} {request : Request} {reply : request.Reply}

/-- No call fails, but for deletions of workloads that are not made. -/
def Obliges (s : Stores) (request : Request) (reply : request.Reply) (after : Stores) : Prop :=
  s.Grants request reply after ∨ s.Pretends request reply after

theorem Obliges.serves (h : s.Obliges request reply after) : s.Serves request reply after := by
  rcases h with h | h
  · exact .inl h
  · exact h.serves

theorem Obliges.grants (h : s.Obliges request reply after)
    (hne : ∀ ns name, request ≠ .delete .statefulSet ns name) : s.Grants request reply after := by
  rcases h with h | h
  · exact h
  · exact h.grants hne

theorem create_of_none {kind : Kind} {object : Resource kind}
    (h : s.find? kind object.ns object.name = none) : s.create object = (.ok (), s.put object) := by
  unfold create
  rw [h]

theorem update_of_current {kind : Kind} {object current : Resource kind}
    (h : s.find? kind object.ns object.name = some current)
    (hversion : current.metadata.resourceVersion = object.metadata.resourceVersion) :
    s.update object = (.ok (), s.put object) := by
  unfold update
  rw [h]
  exact if_pos hversion

end Simulation.Stores

namespace Reconcile

variable {kind : Kind} {regarding : Regarding} {desired : Resource kind} {s last : Stores}
  {outcome : Outcome ObjectOutcome}

theorem isOk_createObject {plan : Plan}
    (hnone : s.find? kind desired.ns desired.name = none)
    (run : Runs Stores.Obliges (createObject regarding desired plan) s outcome last) :
    outcome.isOk = true := by
  obtain ⟨reply, mid, hcall, run⟩ := runs_bind.1 run
  have hgrants := (runs_call.1 hcall).grants fun _ _ e => nomatch e
  have hcreate := hgrants.trans (Stores.create_of_none hnone)
  obtain rfl : reply = .ok () := congrArg Prod.fst hcreate
  obtain ⟨_, after, -, hdone⟩ := runs_bind.1 run
  obtain ⟨rfl, -⟩ := runs_pure.1 hdone
  rfl

/-- What is in the way of a new object has been deleted when the object is created. -/
theorem isOk_recreateObject {e : OperatorError} (hkind : kind ≠ .statefulSet)
    (run : Runs Stores.Obliges (recreateObject regarding desired e) s outcome last) :
    outcome.isOk = true := by
  obtain ⟨_, s₁, -, run⟩ := runs_bind.1 run
  obtain ⟨reply, s₂, hcall, run⟩ := runs_bind.1 run
  have hgrants := (runs_call.1 hcall).grants fun ns name e => by
    injection e with hk
    exact hkind hk
  have hnone : s₂.find? kind desired.ns desired.name = none := by
    rcases s₁.delete_cases kind desired.ns desired.name with hc | ⟨hc, hmissing⟩
    · rw [show s₂ = s₁.erase kind desired.ns desired.name from
        congrArg Prod.snd (hgrants.trans hc)]
      exact s₁.find?_erase_self kind desired.ns desired.name
    · rw [show s₂ = s₁ from congrArg Prod.snd (hgrants.trans hc)]
      exact hmissing
  exact isOk_createObject hnone run

theorem isOk_replaceObject {current : Resource kind}
    (hfind : s.find? kind desired.ns desired.name = some current)
    (run : Runs Stores.Obliges (replaceObject regarding current desired) s outcome last) :
    outcome.isOk = true := by
  unfold replaceObject at run
  split at run
  · next e he =>
    refine isOk_recreateObject (fun hkind => ?_) run
    subst hkind
    cases he
  · next migrated hm =>
    obtain ⟨reply, mid, hcall, run⟩ := runs_bind.1 run
    have hgrants := (runs_call.1 hcall).grants fun _ _ e => nomatch e
    have hcurrent : s.find? kind migrated.ns migrated.name = some current := by
      rw [Resource.ns_migrate hm, Resource.name_migrate hm]
      exact hfind
    have hversion : current.metadata.resourceVersion = migrated.metadata.resourceVersion := by
      rw [Resource.metadata_of_migrate hm]
      rfl
    have hupdate := hgrants.trans (Stores.update_of_current hcurrent hversion)
    obtain rfl : reply = .ok () := congrArg Prod.fst hupdate
    obtain ⟨_, after, -, hdone⟩ := runs_bind.1 run
    obtain ⟨rfl, -⟩ := runs_pure.1 hdone
    rfl

/-- Where no call fails, no attempt fails. -/
theorem isOk_reconcileObject
    (run : Runs Stores.Obliges (reconcileObject regarding desired) s outcome last) :
    outcome.isOk = true := by
  obtain ⟨reply, mid, hcall, onward⟩ := runs_bind.1 run
  obtain ⟨hreply, hmid⟩ := (runs_call.1 hcall).grants fun _ _ e => nomatch e
  subst hmid
  rcases mid.get_cases kind desired.ns desired.name with ⟨current, hfind, hget⟩ | ⟨hnone, hget⟩
  · obtain rfl := hreply.trans hget
    change Runs _ (if isCurrent current desired then _ else _) _ _ _ at onward
    split at onward
    · obtain ⟨rfl, -⟩ := runs_pure.1 onward
      rfl
    · exact isOk_replaceObject hfind onward
  · obtain rfl := hreply.trans hget
    exact isOk_createObject hnone onward

theorem isOk_deleteObject {ns name : String} {outcome : Outcome Unit}
    (run : Runs Stores.Obliges (deleteObject regarding kind ns name) s outcome last) :
    outcome.isOk = true := by
  obtain ⟨reply, mid, hcall, onward⟩ := runs_bind.1 run
  have hreply : reply = .ok () ∨ reply = .error (Stores.missing kind ns name) := by
    rcases runs_call.1 hcall with hgrants | hpretends
    · rcases s.delete_cases kind ns name with hc | ⟨hc, -⟩
      · exact .inl (congrArg Prod.fst (hgrants.trans hc))
      · exact .inr (congrArg Prod.fst (hgrants.trans hc))
    · cases kind with
      | statefulSet => exact .inr hpretends.1
      | service | configMap | disruptionBudget =>
        rcases s.delete_cases _ ns name with hc | ⟨hc, -⟩
        · exact .inl (congrArg Prod.fst (hpretends.trans hc))
        · exact .inr (congrArg Prod.fst (hpretends.trans hc))
  rcases hreply with rfl | rfl
  · obtain ⟨_, after, -, hdone⟩ := runs_bind.1 onward
    obtain ⟨rfl, -⟩ := runs_pure.1 hdone
    rfl
  · obtain ⟨rfl, -⟩ := runs_pure.1 onward
    rfl

end Reconcile

namespace Blueprint

variable {b : Blueprint}

/-- A Service can be built unless its template has a port that cannot exist. -/
theorem buildable_of_verifyPorts
    (h : ∀ t ∈ b.installation.templates.serviceTemplates, t.verifyPorts = .ok ()) :
    b.Buildable := by
  have built {t : ServiceTemplate} {template : Option String}
      (ht : b.serviceTemplate? template = some t) (ns name : String) (labels selector : Labels) :
      (b.fromTemplate t ns name labels selector).isOk = true := by
    obtain ⟨_, -, hfind⟩ := Option.bind_eq_some_iff.1 ht
    unfold fromTemplate
    rw [h t (List.mem_of_find?_eq_some hfind)]
    rfl
  have some_built {t : ServiceTemplate} {template : Option String}
      (ht : b.serviceTemplate? template = some t) (ns name : String) (labels selector : Labels) :
      ((some <$> b.fromTemplate t ns name labels selector : Outcome _)).isOk = true := by
    have hok := built ht ns name labels selector
    cases hb : b.fromTemplate t ns name labels selector with
    | error e =>
      rw [hb] at hok
      cases hok
    | ok object => rfl
  constructor
  · unfold installationService
    extract_lets i
    split
    · next t ht => exact built ht ..
    · rfl
  · intro host _
    unfold hostService
    extract_lets a
    split
    · next t ht => exact built ht ..
    · rfl
  · intro c _
    unfold clusterService?
    split
    · next t ht => exact some_built ht ..
    · rfl
  · intro c _ shard _
    unfold shardService?
    split
    · next t ht => exact some_built ht ..
    · rfl

variable {regarding : Regarding} {p q : PassReport → Program PassReport}

/-- A part of a pass that has no failure of its own where no call fails. -/
structure Succeeds (p : PassReport → Program PassReport) : Prop where
  isSuccess : ∀ {report s report' last}, Runs Stores.Obliges (p report) s report' last →
    report.isSuccess = true → report'.isSuccess = true

theorem succeeds_pure : Succeeds fun report => pure report := by
  refine ⟨fun {report s report' last} run hsuccess => ?_⟩
  rw [(runs_pure.1 run).1]
  exact hsuccess

theorem Succeeds.bind (hp : Succeeds p) (hq : Succeeds q) :
    Succeeds fun report => p report >>= q := by
  refine ⟨fun {report s report' last} run hsuccess => ?_⟩
  obtain ⟨between, mid, hfirst, hsecond⟩ := runs_bind.1 run
  exact hq.isSuccess hsecond (hp.isSuccess hfirst hsuccess)

theorem succeeds_foldlM {α : Type} {f : PassReport → α → Program PassReport} {xs : List α}
    (h : ∀ x ∈ xs, Succeeds fun report => f report x) :
    Succeeds fun report => xs.foldlM f report := by
  induction xs with
  | nil => exact succeeds_pure
  | cons x xs ih =>
    have hrest := ih fun y hy => h y (List.mem_cons_of_mem _ hy)
    simp only [List.foldlM_cons]
    exact (h x (List.mem_cons_self ..)).bind hrest

theorem succeeds_record {program : Program (Outcome ObjectOutcome)}
    (h : ∀ {s outcome last}, Runs Stores.Obliges program s outcome last → outcome.isOk = true) :
    Succeeds fun report => do return report.record (← program) := by
  refine ⟨fun {report s report' last} run hsuccess => ?_⟩
  obtain ⟨outcome, mid, hrun, hdone⟩ := runs_bind.1 run
  rw [(runs_pure.1 hdone).1]
  exact PassReport.isSuccess_record.2 ⟨hsuccess, h hrun⟩

theorem isOk_reconcileBuilt {kind : Kind} {built : Outcome (Resource kind)}
    (hbuilt : built.isOk = true) {s last : Stores} {outcome : Outcome ObjectOutcome}
    (run : Runs Stores.Obliges (reconcileBuilt regarding built) s outcome last) :
    outcome.isOk = true := by
  cases built with
  | error e => cases hbuilt
  | ok desired => exact isOk_reconcileObject run

theorem succeeds_reconcileWanted {wanted : Outcome (Option (Resource .service))}
    (h : wanted.isOk = true) : Succeeds fun report => reconcileWanted regarding report wanted := by
  match wanted with
  | .ok (some desired) => exact succeeds_record isOk_reconcileObject
  | .ok none => exact succeeds_pure
  | .error e => cases h

theorem succeeds_reconcileHost {host : Host} (h : (b.hostService host).isOk = true) :
    Succeeds fun report => reconcileHost b regarding report host := by
  refine ⟨fun {report s report' last} run hsuccess => ?_⟩
  obtain ⟨o₁, s₁, o₂, s₂, o₃, run₁, run₂, run₃, hall, -⟩ := runs_reconcileHost run
  exact hall.2 ⟨hsuccess, isOk_reconcileBuilt h run₁, isOk_reconcileObject run₂,
    isOk_reconcileObject run₃⟩

theorem succeeds_removeHost (host : Host) :
    Succeeds fun report => removeHost regarding report host := by
  refine ⟨fun {report s report' last} run hsuccess => ?_⟩
  obtain ⟨o₁, s₁, o₂, s₂, o₃, run₁, run₂, run₃, hall, -⟩ :=
    runs_removeHost Stores.Obliges.serves run
  exact hall.2 ⟨hsuccess, isOk_deleteObject run₁, isOk_deleteObject run₂, isOk_deleteObject run₃⟩

theorem succeeds_reconcileShared (buildable : b.Buildable) :
    Succeeds fun report => reconcileShared b regarding report := by
  have cluster (c : Cluster) (hc : c ∈ b.installation.clusters) :
      Succeeds fun report => reconcileCluster b regarding report c :=
    (succeeds_reconcileWanted (buildable.cluster c hc)).bind <|
      (succeeds_foldlM fun shard hshard =>
        succeeds_reconcileWanted (buildable.shard c hc shard hshard)).bind <|
      succeeds_record isOk_reconcileObject
  have users : Succeeds fun report => do
      return report.record (← reconcileObject regarding b.usersConfigMap) :=
    succeeds_record isOk_reconcileObject
  have service : Succeeds fun report => do
      return report.record (← reconcileBuilt regarding b.installationService) :=
    succeeds_record (isOk_reconcileBuilt buildable.installation)
  have shared := users.bind (service.bind (succeeds_foldlM cluster))
  simp only [LawfulMonad.bind_assoc, LawfulMonad.pure_bind] at shared
  exact shared

theorem succeeds_sweep : Succeeds fun report => sweep b regarding report := by
  refine succeeds_foldlM fun kind _ => ?_
  refine ⟨fun {report s report' last} run hsuccess => ?_⟩
  obtain ⟨reply, mid, hlist, onward⟩ := runs_bind.1 run
  obtain ⟨⟨existing, rfl, -⟩, -⟩ := (runs_call.1 hlist).grants fun _ _ e => nomatch e
  have stale : Succeeds fun report =>
      (b.staleObjects existing).foldlM (sweepObject b regarding) report := by
    refine succeeds_foldlM fun object _ => ?_
    refine ⟨fun {report s report' last} run hsuccess => ?_⟩
    obtain ⟨outcome, mid, hrun, hdone⟩ := runs_bind.1 run
    have hok := isOk_deleteObject hrun
    cases outcome with
    | error e => cases hok
    | ok done =>
      rw [(runs_pure.1 hdone).1]
      exact hsuccess
  exact stale.isSuccess onward hsuccess

theorem succeeds_converge (buildable : b.Buildable) {s last : Stores} {report : PassReport}
    (run : Runs Stores.Obliges (converge b regarding) s report last) : report.isSuccess = true := by
  obtain ⟨first, s₁, run₁, run⟩ := runs_bind.1 run
  obtain ⟨second, s₂, run₂, run⟩ := runs_bind.1 run
  obtain ⟨third, s₃, run₃, run⟩ := runs_bind.1 run
  obtain ⟨fourth, s₄, run₄, run⟩ := runs_bind.1 run
  obtain ⟨fifth, s₅, run₅, run⟩ := runs_bind.1 run
  obtain ⟨sixth, s₆, run₆, run⟩ := runs_bind.1 run
  have common (e : Exclusion) : Succeeds fun report => reconcileCommon b regarding e report :=
    succeeds_record isOk_reconcileObject
  have success₁ : first.isSuccess = true := (common _).isSuccess run₁ rfl
  have success₂ : second.isSuccess = true :=
    (succeeds_foldlM fun host hhost =>
      succeeds_reconcileHost (buildable.host host hhost)).isSuccess run₂ success₁
  have success₃ : third.isSuccess = true :=
    (succeeds_foldlM fun host _ => succeeds_removeHost host).isSuccess run₃ success₂
  have success₄ : fourth.isSuccess = true := (common _).isSuccess run₄ success₃
  have success₅ : fifth.isSuccess = true :=
    (succeeds_reconcileShared buildable).isSuccess run₅ success₄
  have success₆ : sixth.isSuccess = true := succeeds_sweep.isSuccess run₆ success₅
  have hreport : report = sixth := eq_of_runs_dropDnsCaches run
  rw [hreport]
  exact success₆

end Blueprint

/-- A pass over a resource that the normalizer accepts, and whose Service templates have ports that
can exist, has no failure where no call fails. -/
theorem pass_succeeds {flavour : Flavour} {defaults : HostDefaults} {chi : InstallationResource}
    {i : Installation} (hnormal : chi.normalize defaults = .ok i)
    (hports : ∀ t ∈ (chi.spec.templates.getD {}).serviceTemplates, t.verifyPorts = .ok ())
    {s last : Stores} {outcome : Outcome PassReport}
    (run : Runs Stores.Obliges (pass flavour defaults chi) s outcome last) :
    ∃ report, outcome = .ok report ∧ report.isSuccess = true := by
  obtain ⟨-, ns, -, hspec⟩ := InstallationResource.normalize_spec hnormal
  have htemplates : i.templates = chi.spec.templates.getD {} := by
    rw [hspec]
    rfl
  unfold Reconcile.pass at run
  rw [hnormal] at run
  obtain ⟨_, s₁, -, run⟩ := runs_bind.1 run
  obtain ⟨_, s₂, -, run⟩ := runs_bind.1 run
  obtain ⟨seen, s₃, hobserve, run⟩ := runs_bind.1 run
  obtain ⟨reply, mid, hlist, hseen⟩ := runs_bind.1 hobserve
  obtain ⟨⟨existing, rfl, -⟩, -⟩ := (runs_call.1 hlist).grants fun _ _ e => nomatch e
  obtain ⟨rfl, -⟩ := runs_pure.1 hseen
  obtain ⟨report, s₄, hconverge, run⟩ := runs_bind.1 run
  obtain ⟨_, s₅, -, run⟩ := runs_bind.1 run
  obtain ⟨_, s₆, -, hdone⟩ := runs_bind.1 run
  refine ⟨report, (runs_pure.1 hdone).1, Blueprint.succeeds_converge ?_ hconverge⟩
  refine Blueprint.buildable_of_verifyPorts fun t ht => hports t ?_
  rw [← htemplates]
  exact ht

end ShardOperator
