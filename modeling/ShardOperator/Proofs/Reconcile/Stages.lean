import ShardOperator.Proofs.Desired.Objects
import ShardOperator.Proofs.Reconcile.Attempts
import ShardOperator.Proofs.Reconcile.Ownership

namespace ShardOperator

open Program Simulation Reconcile

/-- What a pass brings about: an object of the installation is in its place, or nothing with the
installation's labels is there. That it has no failures tells besides what could be built. -/
inductive Goal where
  | stands (kind : Kind) (name : String)
  | clear (kind : Kind) (name : String)
  | holds (fact : Prop)

namespace PassReport

theorem isSuccess_recordFailure (r : PassReport) (e : OperatorError) :
    (r.recordFailure e).isSuccess = false := by
  simp [isSuccess, recordFailure]

theorem isSuccess_record {r : PassReport} {outcome : Outcome ObjectOutcome} :
    (r.record outcome).isSuccess = true ↔ r.isSuccess = true ∧ outcome.isOk = true := by
  cases outcome with
  | ok done => exact ⟨fun h => ⟨h, rfl⟩, And.left⟩
  | error e => simp [record, isSuccess_recordFailure, Except.isOk, Except.toBool]

theorem isSuccess_recordDeletion {r : PassReport} {outcome : Outcome Unit} :
    (r.recordDeletion outcome).isSuccess = true ↔ r.isSuccess = true ∧ outcome.isOk = true := by
  cases outcome with
  | ok done => exact ⟨fun h => ⟨h, rfl⟩, And.left⟩
  | error e => simp [recordDeletion, isSuccess_recordFailure, Except.isOk, Except.toBool]

theorem failedHosts_record (r : PassReport) (outcome : Outcome ObjectOutcome) :
    (r.record outcome).failedHosts = r.failedHosts := by
  cases outcome <;> rfl

theorem failedHosts_recordDeletion (r : PassReport) (outcome : Outcome Unit) :
    (r.recordDeletion outcome).failedHosts = r.failedHosts := by
  cases outcome <;> rfl

end PassReport

namespace Reconcile

variable {service : Service} {b : Blueprint} {regarding : Regarding} {host : Host}
  {report report' : PassReport} {s last : Stores}

/-- The three attempts on a host, and what its report says of them. -/
theorem runs_reconcileHost
    (run : Runs service (reconcileHost b regarding report host) s report' last) :
    ∃ o₁ s₁ o₂ s₂ o₃,
      Runs service (reconcileBuilt regarding (b.hostService host)) s o₁ s₁ ∧
      Runs service (reconcileObject regarding (b.hostConfigMap host)) s₁ o₂ s₂ ∧
      Runs service (reconcileObject regarding (b.workload host)) s₂ o₃ last ∧
      (report'.isSuccess = true ↔
        report.isSuccess = true ∧ o₁.isOk = true ∧ o₂.isOk = true ∧ o₃.isOk = true) ∧
      (report'.isSuccess = true → report'.failedHosts = report.failedHosts) := by
  obtain ⟨o₁, s₁, run₁, run⟩ := runs_bind.1 run
  obtain ⟨o₂, s₂, run₂, run⟩ := runs_bind.1 run
  obtain ⟨o₃, s₃, run₃, run⟩ := runs_bind.1 run
  let recorded := ((report.record o₁).record o₂).record o₃
  have hsuccess : recorded.isSuccess = true ↔
      report.isSuccess = true ∧ o₁.isOk = true ∧ o₂.isOk = true ∧ o₃.isOk = true := by
    simp only [recorded, PassReport.isSuccess_record, and_assoc]
  have hfailed : recorded.failedHosts = report.failedHosts := by
    simp only [recorded, PassReport.failedHosts_record]
  change Runs _ (if o₁.isOk && o₂.isOk && o₃.isOk then
    pure (if host.flags.add then { recorded with hostsAdded := recorded.hostsAdded + 1 }
      else recorded) else pure (recorded.recordFailedHost host.id)) _ _ _ at run
  split at run
  · obtain ⟨rfl, rfl⟩ := runs_pure.1 run
    refine ⟨o₁, s₁, o₂, s₂, o₃, run₁, run₂, run₃, ?_⟩
    split
    · exact ⟨hsuccess, fun _ => hfailed⟩
    · exact ⟨hsuccess, fun _ => hfailed⟩
  · next hfault =>
    obtain ⟨rfl, rfl⟩ := runs_pure.1 run
    refine ⟨o₁, s₁, o₂, s₂, o₃, run₁, run₂, run₃, hsuccess, fun hall => ?_⟩
    obtain ⟨-, ok₁, ok₂, ok₃⟩ := hsuccess.1 hall
    simp [ok₁, ok₂, ok₃] at hfault

/-- The three deletions for a host, and what its report says of them. -/
theorem runs_removeHost (serves : ∀ {s request reply after},
      service s request reply after → s.Serves request reply after)
    (run : Runs service (removeHost regarding report host) s report' last) :
    ∃ o₁ s₁ o₂ s₂ o₃,
      Runs service (deleteObject regarding .statefulSet host.ns host.address.workloadName)
        s o₁ s₁ ∧
      Runs service (deleteObject regarding .service host.ns host.address.workloadName) s₁ o₂ s₂ ∧
      Runs service (deleteObject regarding .configMap host.ns host.address.configMapName)
        s₂ o₃ last ∧
      (report'.isSuccess = true ↔
        report.isSuccess = true ∧ o₁.isOk = true ∧ o₂.isOk = true ∧ o₃.isOk = true) ∧
      (report'.isSuccess = true → report'.failedHosts = report.failedHosts) := by
  obtain ⟨o₁, s₁, run₁, run⟩ := runs_bind.1 run
  obtain ⟨o₂, s₂, run₂, run⟩ := runs_bind.1 run
  obtain ⟨o₃, s₃, run₃, run⟩ := runs_bind.1 run
  let recorded := ((report.recordDeletion o₁).recordDeletion o₂).recordDeletion o₃
  have hsuccess : recorded.isSuccess = true ↔
      report.isSuccess = true ∧ o₁.isOk = true ∧ o₂.isOk = true ∧ o₃.isOk = true := by
    simp only [recorded, PassReport.isSuccess_recordDeletion, and_assoc]
  have hfailed : recorded.failedHosts = report.failedHosts := by
    simp only [recorded, PassReport.failedHosts_recordDeletion]
  change Runs _ (if o₁.isOk && o₂.isOk && o₃.isOk then do
    Program.call (.forgetHost host.address.fqdn)
    return { recorded with hostsRemoved := recorded.hostsRemoved + 1 }
    else pure (recorded.recordFailedHost host.id)) _ _ _ at run
  split at run
  · obtain ⟨_, s₄, hforget, run⟩ := runs_bind.1 run
    obtain ⟨rfl, rfl⟩ := runs_pure.1 run
    have hlast : last = s₃ := by
      rcases serves (runs_call.1 hforget) with h | ⟨h, -⟩
      · exact h
      · exact h
    subst hlast
    exact ⟨o₁, s₁, o₂, s₂, o₃, run₁, run₂, run₃, hsuccess, fun _ => hfailed⟩
  · next hfault =>
    obtain ⟨rfl, rfl⟩ := runs_pure.1 run
    refine ⟨o₁, s₁, o₂, s₂, o₃, run₁, run₂, run₃, hsuccess, fun hall => ?_⟩
    obtain ⟨-, ok₁, ok₂, ok₃⟩ := hsuccess.1 hall
    simp [ok₁, ok₂, ok₃] at hfault

/-- What becomes of the DNS caches is not reported. -/
theorem eq_of_runs_dropDnsCaches {i : Installation}
    (run : Runs service (do
      if 0 < report.hostsAdded || 0 < report.hostsRemoved then dropDnsCaches i report
      return report) s report' last) : report' = report := by
  by_cases hnews : (0 < report.hostsAdded || 0 < report.hostsRemoved) = true
  · rw [if_pos hnews] at run
    obtain ⟨_, mid, -, hdone⟩ := runs_bind.1 run
    exact (runs_pure.1 hdone).1
  · rw [if_neg hnews] at run
    exact (runs_pure.1 run).1

end Reconcile

namespace Blueprint

variable {b : Blueprint} {regarding : Regarding}

def Meets (b : Blueprint) (s : Stores) : Goal → Prop
  | .stands kind name => ∃ desired ∈ b.objects kind, desired.name = name ∧ Stands desired s
  | .clear kind name =>
    name ∉ b.installation.objectNames kind ∧
      ∀ object, s.find? kind b.installation.ns name = some object →
        ¬ object.Carries b.installation.selector
  | .holds fact => fact

/-- A part of a pass: what it brings about, and that it keeps up what was brought about before, both
if the pass has no failure at the end of it. -/
structure Stage (b : Blueprint) (program : PassReport → Program PassReport)
    (gains : Goal → Prop) : Prop where
  only : ∀ report, Only b.Owns (program report)
  achieves : ∀ {report s report' last}, b.installation.identity.Tidy s →
    Runs Stores.ServesTruly (program report) s report' last → report'.isSuccess = true →
    report.isSuccess = true ∧ report'.failedHosts = report.failedHosts ∧
      ∀ goal, gains goal ∨ b.Meets s goal → b.Meets last goal

theorem tidy_of_only {α : Type} {program : Program α} {s last : Stores} {value : α}
    (only : Only b.Owns program) (run : Runs Stores.ServesTruly program s value last)
    (tidy : b.installation.identity.Tidy s) : b.installation.identity.Tidy last :=
  run.invariant _ (fun owns served => owns.tidy served.1) only tidy

theorem clear_of_only {α : Type} {program : Program α} {s last : Stores} {value : α}
    (only : Only b.Owns program) (run : Runs Stores.ServesTruly program s value last) {kind : Kind}
    {name : String} (h : b.Meets s (.clear kind name)) : b.Meets last (.clear kind name) := by
  refine run.invariant (b.Meets · (.clear kind name)) (fun owns served hclear => ?_) only h
  exact ⟨hclear.1, fun object hfind =>
    hclear.2 object (owns.find?_of_notMem served.1 hclear.1 hfind)⟩

section Composition

variable {p q : PassReport → Program PassReport} {gains gains' : Goal → Prop}

theorem Stage.mono (h : b.Stage p gains) (himp : ∀ goal, gains' goal → gains goal) :
    b.Stage p gains' where
  only := h.only
  achieves tidy run hsuccess := by
    obtain ⟨hreport, hfailed, hgoals⟩ := h.achieves tidy run hsuccess
    exact ⟨hreport, hfailed, fun goal hgoal => hgoals goal (hgoal.imp_left (himp goal))⟩

theorem stage_pure : b.Stage (fun report => pure report) fun _ => False where
  only _ := only_pure _
  achieves _ run hsuccess := by
    obtain ⟨rfl, rfl⟩ := runs_pure.1 run
    exact ⟨hsuccess, rfl, fun goal hgoal => hgoal.elim False.elim id⟩

theorem Stage.bind (hp : b.Stage p gains) (hq : b.Stage q gains') :
    b.Stage (fun report => p report >>= q) fun goal => gains goal ∨ gains' goal where
  only report := (hp.only report).bind hq.only
  achieves {report s report' last} tidy run hsuccess := by
    obtain ⟨between, mid, hfirst, hsecond⟩ := runs_bind.1 run
    have htidy := tidy_of_only (hp.only report) hfirst tidy
    obtain ⟨hbetween, hfailed', hgoals'⟩ := hq.achieves htidy hsecond hsuccess
    obtain ⟨hreport, hfailed, hgoals⟩ := hp.achieves tidy hfirst hbetween
    refine ⟨hreport, hfailed'.trans hfailed, fun goal hgoal => ?_⟩
    rcases hgoal with (hgain | hgain) | hmeets
    · exact hgoals' goal (.inr (hgoals goal (.inl hgain)))
    · exact hgoals' goal (.inl hgain)
    · exact hgoals' goal (.inr (hgoals goal (.inr hmeets)))

theorem stage_foldlM {α : Type} {f : PassReport → α → Program PassReport} {xs : List α}
    {gained : α → Goal → Prop} (h : ∀ x ∈ xs, b.Stage (fun report => f report x) (gained x)) :
    b.Stage (fun report => xs.foldlM f report) fun goal => ∃ x ∈ xs, gained x goal := by
  induction xs with
  | nil =>
    refine stage_pure.mono fun goal hgoal => ?_
    obtain ⟨x, hx, -⟩ := hgoal
    exact absurd hx List.not_mem_nil
  | cons x xs ih =>
    have hrest := ih fun y hy => h y (List.mem_cons_of_mem _ hy)
    have hall := (h x (List.mem_cons_self ..)).bind hrest
    simp only [List.foldlM_cons]
    refine hall.mono fun goal hgoal => ?_
    obtain ⟨y, hy, hgain⟩ := hgoal
    rcases List.mem_cons.1 hy with rfl | hy
    · exact .inl hgain
    · exact .inr ⟨y, hy, hgain⟩

end Composition

section Attempts

variable {kind : Kind}

/-- A part of a pass that has an outcome of its own, in the same sense as a stage. -/
structure Attempt (b : Blueprint) {α : Type} (program : Program (Outcome α))
    (gains : Goal → Prop) : Prop where
  only : Only b.Owns program
  achieves : ∀ {s outcome last}, Runs Stores.ServesTruly program s outcome last →
    outcome.isOk = true → ∀ goal, gains goal ∨ b.Meets s goal → b.Meets last goal

/-- An attempt whose outcome is recorded is a stage. -/
theorem Attempt.record {program : Program (Outcome ObjectOutcome)} {gains : Goal → Prop}
    (h : b.Attempt program gains) :
    b.Stage (fun report => do return report.record (← program)) gains where
  only _ := h.only.bind fun _ => only_pure _
  achieves {report s report' last} tidy run hsuccess := by
    obtain ⟨outcome, mid, hrun, hdone⟩ := runs_bind.1 run
    obtain ⟨rfl, rfl⟩ := runs_pure.1 hdone
    obtain ⟨hreport, hok⟩ := PassReport.isSuccess_record.1 hsuccess
    exact ⟨hreport, report.failedHosts_record outcome, h.achieves hrun hok⟩

/-- An attempt on an object of the installation, if it succeeds, has the object in its place and
leaves all others alone. -/
theorem attempt_reconcileObject {name : String} {desired : Resource kind}
    (hmem : desired ∈ b.objects kind) (hbuilt : b.Built name desired)
    (hname : name ∈ b.installation.objectNames kind) :
    b.Attempt (reconcileObject regarding desired) (· = .stands kind name) := by
  refine ⟨only_reconcile hbuilt hname, fun {s outcome last} truly hok goal h => ?_⟩
  have run := truly.mono And.left
  have hself : b.Meets last (.stands kind name) :=
    ⟨desired, hmem, hbuilt.name, stands_reconcileObject hbuilt.version run hok⟩
  rcases h with rfl | h
  · exact hself
  · cases goal with
    | stands kind' name' =>
      by_cases hkey : kind = kind' ∧ name = name'
      · obtain ⟨rfl, rfl⟩ := hkey
        exact hself
      · obtain ⟨other, hother, hothername, object, hfind, hversion⟩ := h
        refine ⟨other, hother, hothername, object, ?_, hversion⟩
        rw [find?_reconcileObject run, hfind]
        intro e
        injection e with hkind e
        injection e with _ hnames
        exact hkey ⟨hkind, by rw [← hbuilt.name, hnames, hothername]⟩
    | clear kind' name' =>
      refine ⟨h.1, fun object hfind => h.2 object ?_⟩
      rw [← hfind]
      refine (find?_reconcileObject run ?_).symm
      intro e
      injection e with hkind e
      injection e with _ hnames
      subst hkind
      rw [hbuilt.name] at hnames
      exact h.1 (hnames ▸ hname)
    | holds fact => exact h

/-- An attempt on an object that may not have been built. -/
theorem attempt_reconcileBuilt {name : String} {built : Outcome (Resource kind)}
    (h : ∀ desired, built = .ok desired →
      desired ∈ b.objects kind ∧ b.Built name desired)
    (hname : name ∈ b.installation.objectNames kind) :
    b.Attempt (reconcileBuilt regarding built) fun goal =>
      goal = .stands kind name ∨ goal = .holds (built.isOk = true) := by
  cases built with
  | ok desired =>
    obtain ⟨hmem, hbuilt⟩ := h desired rfl
    have attempt : b.Attempt (reconcileObject regarding desired) (· = .stands kind name) :=
      attempt_reconcileObject hmem hbuilt hname
    refine ⟨attempt.only, fun run hok goal hgoal => ?_⟩
    rcases hgoal with (hgoal | rfl) | hgoal
    · exact attempt.achieves run hok goal (.inl hgoal)
    · exact (rfl : Except.isOk (.ok desired) = true)
    · exact attempt.achieves run hok goal (.inr hgoal)
  | error e =>
    refine ⟨only_pure _, fun run hok => ?_⟩
    obtain ⟨rfl, -⟩ := runs_pure.1 run
    cases hok

/-- A deletion at a name that the installation has no use for, if it succeeds, leaves all else
alone. -/
theorem attempt_deleteObject {name : String} (hname : name ∉ b.installation.objectNames kind)
    (named : ∀ kind, ∀ object ∈ b.objects kind, object.name ∈ b.installation.objectNames kind) :
    b.Attempt (deleteObject regarding kind b.installation.ns name) (· = .clear kind name) := by
  refine ⟨only_deleteObject trivial fun _ _ => trivial, fun {s outcome last} truly hok goal h => ?_⟩
  have run := truly.mono And.left
  have hself : b.Meets last (.clear kind name) := by
    refine ⟨hname, fun object hfind => ?_⟩
    rw [find?_deleteObject truly hok] at hfind
    cases hfind
  rcases h with rfl | h
  · exact hself
  · cases goal with
    | stands kind' name' =>
      obtain ⟨other, hother, hothername, object, hfind, hversion⟩ := h
      refine ⟨other, hother, hothername, object, ?_, hversion⟩
      rw [find?_deleteObject_of_ne run, hfind]
      intro e
      injection e with hkind e
      injection e with _ hnames
      subst hkind
      exact hname (hnames ▸ named kind other hother)
    | clear kind' name' =>
      by_cases hkey : kind = kind' ∧ name = name'
      · obtain ⟨rfl, rfl⟩ := hkey
        exact hself
      · refine ⟨h.1, fun object hfind => h.2 object ?_⟩
        rw [← hfind]
        refine (find?_deleteObject_of_ne run ?_).symm
        intro e
        injection e with hkind e
        injection e with _ hnames
        exact hkey ⟨hkind, hnames⟩
    | holds fact => exact h

end Attempts

end Blueprint

end ShardOperator
