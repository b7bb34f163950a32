import ShardOperator.Proofs.Program.Reading
import ShardOperator.Proofs.Reconcile.Attempts
import ShardOperator.Proofs.Desired.Objects

namespace ShardOperator

open Program Simulation Reconcile

/-- A pass that has found nothing to do so far. -/
structure PassReport.Idle (r : PassReport) : Prop where
  skips : ∀ outcome ∈ r.outcomes, outcome.plan = .skip
  failures : r.failures = []
  failedHosts : r.failedHosts = []
  hostsAdded : r.hostsAdded = 0
  hostsRemoved : r.hostsRemoved = 0
  objectsRemoved : r.objectsRemoved = 0

theorem PassReport.idle_empty : PassReport.Idle {} :=
  ⟨fun _ h => absurd h List.not_mem_nil, rfl, rfl, rfl, rfl, rfl⟩

/-- The object has been left alone. -/
def Skips (outcome : Outcome ObjectOutcome) : Prop := ∃ done, outcome = .ok done ∧ done.plan = .skip

/-- What comes of an object that is left alone. -/
def Resource.skipped {kind : Kind} (desired : Resource kind) : Outcome ObjectOutcome :=
  .ok ⟨kind, desired.name, .skip⟩

theorem Resource.skips_skipped {kind : Kind} (desired : Resource kind) : Skips desired.skipped :=
  ⟨_, rfl, rfl⟩

theorem PassReport.Idle.record {r : PassReport} {outcome : Outcome ObjectOutcome} (idle : r.Idle)
    (h : Skips outcome) : (r.record outcome).Idle := by
  obtain ⟨done, rfl, hplan⟩ := h
  refine { idle with skips := fun other hother => ?_ }
  rcases List.mem_append.1 hother with hother | hother
  · exact idle.skips other hother
  · rw [List.mem_singleton.1 hother]
    exact hplan

namespace Reconcile

variable {kind : Kind} {regarding : Regarding} {desired : Resource kind} {s : Stores}

/-- An object in its place is read and left alone. -/
theorem reads_reconcileObject (hversion : desired.version?.isSome) (stands : Stands desired s) :
    Reads s (· = desired.skipped) (reconcileObject regarding desired) := by
  obtain ⟨current, hfind, hsame⟩ := stands
  refine (reads_call rfl).bind fun reply served => ?_
  have hget : s.get kind desired.ns desired.name = .ok current := by
    rcases s.get_cases kind desired.ns desired.name with ⟨object, hobject, hget⟩ | ⟨hnone, -⟩
    · rw [hfind] at hobject
      rw [hget, Option.some.inj hobject]
    · rw [hfind] at hnone
      cases hnone
  obtain rfl : reply = .ok current := served.1.trans hget
  have hcurrent : isCurrent current desired = true := by
    simp only [isCurrent, hversion, hsame, decide_true, Bool.and_self]
  change Reads s _ (if isCurrent current desired then _ else _)
  rw [if_pos hcurrent]
  exact reads_pure rfl

end Reconcile

namespace Blueprint

variable {b : Blueprint} {regarding : Regarding} {report : PassReport} {s : Stores}

/-- The stores are as a pass wants them: it finds every object of its version, every host known, and
nothing to take down. -/
structure AtRest (b : Blueprint) (s : Stores) : Prop where
  buildable : b.Buildable
  stands : ∀ kind, ∀ desired ∈ b.objects kind, Stands desired s
  common : Stands (b.commonConfigMap peersBefore) s
  known : ∀ host ∈ b.installation.hosts, host.flags.add = false
  unremoved : b.installation.removed = []
  wanted : ∀ kind name (object : Resource kind),
    s.find? kind b.installation.ns name = some object → object.Carries b.installation.selector →
      object.anyName ∈ b.installation.objectNames kind

theorem reads_reconcileCommon {e : Exclusion} (stands : Stands (b.commonConfigMap e) s)
    (idle : report.Idle) : Reads s PassReport.Idle (reconcileCommon b regarding e report) :=
  (reads_reconcileObject (built_commonConfigMap e).version stands).bind fun _ hskipped =>
    idle.record (hskipped ▸ Resource.skips_skipped _)

theorem version?_finish {kind : Kind} (object : Resource kind) :
    (b.finish object).version?.isSome := version?_stamp _

/-- The Service of a host has its name and a version, with a template and without. -/
theorem hostService_ok {host : Host} {service : Resource .service}
    (h : b.hostService host = .ok service) :
    service.version?.isSome ∧ service.name = host.address.workloadName := by
  unfold hostService at h
  extract_lets a at h
  split at h
  · obtain ⟨-, rfl⟩ := fromTemplate_ok h
    exact ⟨version?_finish _, rfl⟩
  · obtain rfl := Except.ok.inj h
    exact ⟨version?_finish _, rfl⟩

/-- The three objects of a host are in their places. -/
structure HostStands (b : Blueprint) (host : Host) (service : Resource .service) (s : Stores) :
    Prop where
  built : b.hostService host = .ok service
  service : Stands service s
  configMap : Stands (b.hostConfigMap host) s
  workload : Stands (b.workload host) s

/-- What is reported of a host whose three objects are left alone. -/
def reportSpared (b : Blueprint) (report : PassReport) (host : Host) (service : Resource .service) :
    PassReport :=
  let report := ((report.record service.skipped).record (b.hostConfigMap host).skipped).record
    (b.workload host).skipped
  if host.flags.add then { report with hostsAdded := report.hostsAdded + 1 } else report

/-- Of a host whose objects are in their places a pass leaves all three alone. -/
theorem reads_spared {host : Host} {service : Resource .service}
    (standing : b.HostStands host service s) :
    Reads s (· = b.reportSpared report host service) (reconcileHost b regarding report host) := by
  obtain ⟨hbuilt, stands₁, stands₂, stands₃⟩ := standing
  unfold reconcileHost
  rw [hbuilt]
  refine (reads_reconcileObject (hostService_ok hbuilt).1 stands₁).bind ?_
  rintro _ rfl
  refine (reads_reconcileObject (version?_finish _) stands₂).bind ?_
  rintro _ rfl
  refine (reads_reconcileObject (version?_finish _) stands₃).bind ?_
  rintro _ rfl
  exact reads_pure rfl

variable (rest : b.AtRest s)

include rest

/-- Nothing is swept. -/
theorem reads_sweepKind (kind : Kind) (idle : report.Idle) :
    Reads s PassReport.Idle (sweepKind b regarding report kind) := by
  refine (reads_call rfl).bind fun reply served => ?_
  obtain ⟨⟨existing, rfl, hlists⟩, -⟩ := served
  have hstale : b.staleObjects existing = [] := by
    refine List.filter_eq_nil_iff.2 fun object hobject => ?_
    obtain ⟨⟨name, hfind⟩, hcarries⟩ := (hlists object).1 hobject
    have hname := rest.wanted kind name object hfind hcarries
    rw [← desiredNames_eq] at hname
    simp [hname]
  change Reads s _ ((b.staleObjects existing).foldlM _ report)
  rw [hstale]
  exact reads_pure idle

theorem reads_reconcileHost {host : Host} (hhost : host ∈ b.installation.hosts)
    (idle : report.Idle) : Reads s PassReport.Idle (reconcileHost b regarding report host) := by
  have hbuilt := rest.buildable.host host hhost
  cases hservice : b.hostService host with
  | error e =>
    rw [hservice] at hbuilt
    cases hbuilt
  | ok service =>
    have standing : b.HostStands host service s := by
      refine ⟨hservice, ?_, ?_, ?_⟩
      · exact rest.stands .service _ (mem_objects_hostService hhost hservice)
      · exact rest.stands .configMap _ (mem_objects_hostConfigMap hhost)
      · exact rest.stands .statefulSet _ (List.mem_map_of_mem hhost)
    refine (reads_spared standing).mono ?_
    rintro _ rfl
    unfold reportSpared
    rw [rest.known host hhost]
    exact ((idle.record (Resource.skips_skipped _)).record (Resource.skips_skipped _)).record
      (Resource.skips_skipped _)

variable (placed : b.installation.Placed) (spare : b.installation.templates.SpareLabels)

include placed spare

theorem reads_reconcile {kind : Kind} {desired : Resource kind} (h : desired ∈ b.objects kind) :
    Reads s Skips (reconcileObject regarding desired) := by
  obtain ⟨name, -, hbuilt⟩ := built_of_mem_objects placed spare h
  refine (reads_reconcileObject hbuilt.version (rest.stands kind desired h)).mono ?_
  rintro _ rfl
  exact desired.skips_skipped

theorem reads_reconcileWanted {wanted : Outcome (Option (Resource .service))}
    (hok : wanted.isOk = true)
    (h : ∀ desired, wanted = .ok (some desired) → desired ∈ b.objects .service)
    (idle : report.Idle) : Reads s PassReport.Idle (reconcileWanted regarding report wanted) := by
  match wanted with
  | .ok (some desired) =>
    exact (reads_reconcile rest placed spare (h desired rfl)).bind fun outcome hskips =>
      idle.record hskips
  | .ok none => exact reads_pure idle
  | .error e => cases hok

theorem reads_reconcileCluster {c : Cluster} (hc : c ∈ b.installation.clusters)
    (idle : report.Idle) : Reads s PassReport.Idle (reconcileCluster b regarding report c) := by
  refine (reads_reconcileWanted rest placed spare (rest.buildable.cluster c hc)
    (fun desired h => mem_objects_clusterService hc h) idle).bind fun r₁ idle₁ => ?_
  refine (reads_foldlM (fun acc hacc shard hshard =>
    reads_reconcileWanted rest placed spare (rest.buildable.shard c hc shard hshard)
      (fun desired h => mem_objects_shardService hc hshard h) hacc) idle₁).bind fun r₂ idle₂ => ?_
  have budget : b.budget c ∈ b.objects .disruptionBudget := List.mem_map_of_mem hc
  exact (reads_reconcile rest placed spare budget).bind fun outcome hskips => idle₂.record hskips

theorem reads_reconcileShared (idle : report.Idle) :
    Reads s PassReport.Idle (reconcileShared b regarding report) := by
  refine (reads_reconcile rest placed spare mem_objects_usersConfigMap).bind fun o₁ skips₁ => ?_
  have hbuilt := rest.buildable.installation
  cases hservice : b.installationService with
  | error e =>
    rw [hservice] at hbuilt
    cases hbuilt
  | ok service =>
    refine (reads_reconcile rest placed spare (mem_objects_installationService hservice)).bind
      fun o₂ skips₂ => ?_
    exact reads_foldlM (fun acc hacc c hc => reads_reconcileCluster rest placed spare hc hacc)
      ((idle.record skips₁).record skips₂)

/-- Where the stores are as it wants them, a pass only looks at them. -/
theorem reads_converge : Reads s PassReport.Idle (converge b regarding) := by
  refine (reads_reconcileCommon rest.common PassReport.idle_empty).bind fun r₁ idle₁ => ?_
  refine (reads_foldlM (fun acc hacc host hhost =>
    reads_reconcileHost rest hhost hacc) idle₁).bind fun r₂ idle₂ => ?_
  rw [rest.unremoved]
  refine (reads_pure idle₂).bind fun r₃ idle₃ => ?_
  -- No host has failed, so the second writing of the common files leaves none of them out.
  have hpeers : peersAfter r₃ = .none := by
    rw [peersAfter, idle₃.failedHosts]
    rfl
  rw [hpeers]
  refine (reads_reconcileCommon (rest.stands .configMap _ mem_objects_commonConfigMap) idle₃).bind
    fun r₄ idle₄ => ?_
  refine (reads_reconcileShared rest placed spare idle₄).bind fun r₅ idle₅ => ?_
  refine (reads_foldlM (fun acc hacc kind _ => reads_sweepKind rest kind hacc) idle₅).bind
    fun r₆ idle₆ => ?_
  have hnews : ¬ (0 < r₆.hostsAdded || 0 < r₆.hostsRemoved) = true := by
    rw [idle₆.hostsAdded, idle₆.hostsRemoved]
    decide
  change Reads s _ (if (0 < r₆.hostsAdded || 0 < r₆.hostsRemoved) = true then _ else _)
  rw [if_neg hnews]
  exact reads_pure idle₆

end Blueprint

end ShardOperator
