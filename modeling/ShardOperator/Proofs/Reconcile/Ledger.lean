import ShardOperator.Proofs.Program.Dialogue
import ShardOperator.Reconcile.Pass

namespace ShardOperator

open Program Reconcile

/-- One thing that a pass sets out to do: to bring about an object, which perhaps cannot be built;
to delete one; or to list those of a kind. -/
inductive Duty where
  | apply {kind : Kind} (desired : Outcome (Resource kind))
  | delete (kind : Kind) (ns name : String)
  | list (kind : Kind) (ns : String) (selector : Labels)

namespace Duty

abbrev Result : Duty → Type
  | .apply _ => Outcome ObjectOutcome
  | .delete .. => Outcome Unit
  | .list kind .. => Outcome (List (Resource kind))

def carryOut (regarding : Regarding) : (duty : Duty) → Program duty.Result
  | .apply desired => reconcileBuilt regarding desired
  | .delete kind ns name => deleteObject regarding kind ns name
  | .list kind ns selector => .call (.list kind ns selector)

end Duty

/-- A duty, and what came of it. -/
structure Entry where
  duty : Duty
  result : duty.Result

namespace Entry

def outcome? : Entry → Option ObjectOutcome
  | ⟨.apply _, .ok outcome⟩ => some outcome
  | _ => none

def failure? : Entry → Option OperatorError
  | ⟨.apply _, .error e⟩ | ⟨.delete .., .error e⟩ | ⟨.list .., .error e⟩ => some e
  | _ => none

/-- Something was deleted, or was gone already. -/
def isDeletion : Entry → Bool
  | ⟨.delete .., .ok _⟩ => true
  | _ => false

end Entry

/-- Everything said in carrying out the duties one after the other, besides exchanges that are no
calls on the stored objects. -/
inductive Chronicle (regarding : Regarding) : List Entry → List Exchange → Prop where
  | nil : Chronicle regarding [] []
  | aside {entries : List Entry} {log : List Exchange} (x : Exchange) (h : x.isCall = false)
      (onward : Chronicle regarding entries log) : Chronicle regarding entries (x :: log)
  | entry {entries : List Entry} {log said : List Exchange} {duty : Duty} {result : duty.Result}
      (carried : Dialogue (duty.carryOut regarding) said result)
      (onward : Chronicle regarding entries log) :
      Chronicle regarding (⟨duty, result⟩ :: entries) (said ++ log)

section Chronicle

variable {regarding : Regarding} {entries more : List Entry} {log later : List Exchange}

theorem Chronicle.append (h : Chronicle regarding entries log)
    (hmore : Chronicle regarding more later) :
    Chronicle regarding (entries ++ more) (log ++ later) := by
  induction h with
  | nil => exact hmore
  | aside x hx _ ih => exact .aside x hx ih
  | entry carried _ ih =>
    rw [List.append_assoc]
    exact .entry carried ih

/-- The end of the first part of the duties is a place in what is said. -/
theorem Chronicle.split (h : Chronicle regarding (entries ++ more) log) :
    ∃ before after, log = before ++ after ∧ Chronicle regarding entries before ∧
      Chronicle regarding more after := by
  generalize hall : entries ++ more = all at h
  induction h generalizing entries with
  | nil =>
    obtain ⟨rfl, rfl⟩ := List.append_eq_nil_iff.1 hall
    exact ⟨[], [], rfl, .nil, .nil⟩
  | aside x hx _ ih =>
    obtain ⟨before, after, rfl, hbefore, hafter⟩ := ih hall
    exact ⟨x :: before, after, rfl, .aside x hx hbefore, hafter⟩
  | @entry _ _ said _ _ carried onward ih =>
    cases entries with
    | nil =>
      obtain rfl : more = _ := hall
      exact ⟨[], _, rfl, .nil, .entry carried onward⟩
    | cons first rest =>
      obtain ⟨rfl, hrest⟩ := List.cons.inj hall
      obtain ⟨before, after, rfl, hbefore, hafter⟩ := ih hrest
      exact ⟨said ++ before, after, (List.append_assoc ..).symm, .entry carried hbefore, hafter⟩

/-- Every entry has its part in what is said, and no calls are made besides. -/
theorem Chronicle.parts (h : Chronicle regarding entries log) :
    ∃ parts : List (Entry × List Exchange), parts.map Prod.fst = entries ∧
      (∀ part ∈ parts, Dialogue (part.1.duty.carryOut regarding) part.2 part.1.result) ∧
      callsOf log = parts.flatMap fun part => callsOf part.2 := by
  induction h with
  | nil => exact ⟨[], rfl, fun part hpart => absurd hpart List.not_mem_nil, rfl⟩
  | @aside _ log x hx _ ih =>
    obtain ⟨parts, hentries, hparts, hcalls⟩ := ih
    have hnone : callsOf [x] = [] := callsOf_of_isCall fun y hy => List.mem_singleton.1 hy ▸ hx
    refine ⟨parts, hentries, hparts, ?_⟩
    rw [← List.singleton_append, callsOf_append, hnone, List.nil_append, hcalls]
  | @entry _ _ said duty result carried _ ih =>
    obtain ⟨parts, hentries, hparts, hcalls⟩ := ih
    refine ⟨(⟨duty, result⟩, said) :: parts, by rw [List.map_cons, hentries], ?_, ?_⟩
    · intro part hpart
      rcases List.mem_cons.1 hpart with rfl | hpart
      · exact carried
      · exact hparts part hpart
    · rw [callsOf_append, hcalls, List.flatMap_cons]

/-- Where it is known which calls carry out each duty, no other calls are made. -/
theorem Chronicle.calls_eq {calls : Entry → List Call} (h : Chronicle regarding entries log)
    (each : ∀ entry ∈ entries, ∀ said,
      Dialogue (entry.duty.carryOut regarding) said entry.result → callsOf said = calls entry) :
    callsOf log = entries.flatMap calls := by
  obtain ⟨parts, rfl, hparts, hcalls⟩ := h.parts
  rw [hcalls, List.flatMap_map]
  refine congrArg List.flatten (List.map_congr_left fun part hpart => ?_)
  exact each part.1 (List.mem_map_of_mem hpart) part.2 (hparts part hpart)

end Chronicle

namespace PassReport

/-- What two parts of a pass have come to together. -/
def plus (r gain : PassReport) : PassReport where
  outcomes := r.outcomes ++ gain.outcomes
  failures := r.failures ++ gain.failures
  failedHosts := r.failedHosts ++ gain.failedHosts
  hostsAdded := r.hostsAdded + gain.hostsAdded
  hostsRemoved := r.hostsRemoved + gain.hostsRemoved
  objectsRemoved := r.objectsRemoved + gain.objectsRemoved

theorem plus_empty (r : PassReport) : r.plus {} = r := by
  simp [plus]

theorem plus_assoc (r s t : PassReport) : (r.plus s).plus t = r.plus (s.plus t) := by
  simp [plus, Nat.add_assoc]

def sum (gains : List PassReport) : PassReport := gains.foldr plus {}

end PassReport

/-- What became of the three attempts on a host. -/
structure Fate (α : Type) where
  host : Host
  first : Outcome α
  second : Outcome α
  third : Outcome α

namespace Fate

variable {α : Type}

def isOk (f : Fate α) : Bool := f.first.isOk && f.second.isOk && f.third.isOk

/-- The host by its id, if one of its attempts failed. -/
def blamed (f : Fate α) : List HostId := if f.isOk then [] else [f.host.id]

/-- The attempts in taking the host down. -/
def removal (f : Fate Unit) : List Entry :=
  [⟨.delete .statefulSet f.host.ns f.host.address.workloadName, f.first⟩,
    ⟨.delete .service f.host.ns f.host.address.workloadName, f.second⟩,
    ⟨.delete .configMap f.host.ns f.host.address.configMapName, f.third⟩]

end Fate

namespace Blueprint

/-- The attempts in bringing the host about. -/
def upkeep (b : Blueprint) (f : Fate ObjectOutcome) : List Entry :=
  [⟨.apply (b.hostService f.host), f.first⟩,
    ⟨.apply (.ok (b.hostConfigMap f.host)), f.second⟩,
    ⟨.apply (.ok (b.workload f.host)), f.third⟩]

end Blueprint

namespace PassReport

/-- What the entries alone add to a report. -/
def ofEntries (entries : List Entry) : PassReport where
  outcomes := entries.filterMap Entry.outcome?
  failures := entries.filterMap Entry.failure?

theorem ofEntries_append (entries more : List Entry) :
    ofEntries (entries ++ more) = (ofEntries entries).plus (ofEntries more) := by
  simp [ofEntries, plus]

theorem record_eq {kind : Kind} (desired : Outcome (Resource kind)) (r : PassReport)
    (outcome : Outcome ObjectOutcome) :
    r.record outcome = r.plus (ofEntries [⟨.apply desired, outcome⟩]) := by
  cases outcome with
  | ok done =>
    change _ = r.plus { outcomes := [done] }
    simp [record, recordOutcome, plus]
  | error e =>
    change _ = r.plus { failures := [e] }
    simp [record, recordFailure, plus]

theorem recordDeletion_eq (kind : Kind) (ns name : String) (r : PassReport)
    (outcome : Outcome Unit) :
    r.recordDeletion outcome = r.plus (ofEntries [⟨.delete kind ns name, outcome⟩]) := by
  cases outcome with
  | ok done => exact r.plus_empty.symm
  | error e =>
    change _ = r.plus { failures := [e] }
    simp [recordDeletion, recordFailure, plus]

def ofUpkeep (b : Blueprint) (f : Fate ObjectOutcome) : PassReport :=
  { ofEntries (b.upkeep f) with
    failedHosts := f.blamed
    hostsAdded := if f.host.flags.add && f.isOk then 1 else 0 }

def ofRemoval (f : Fate Unit) : PassReport :=
  { ofEntries f.removal with
    failedHosts := f.blamed
    hostsRemoved := if f.isOk then 1 else 0 }

def ofSweep (entries : List Entry) : PassReport :=
  { ofEntries entries with objectsRemoved := entries.countP Entry.isDeletion }

theorem ofUpkeep_eq (b : Blueprint) (f : Fate ObjectOutcome) (r : PassReport) :
    (let recorded := ((r.record f.first).record f.second).record f.third
      if f.isOk then
        if f.host.flags.add then { recorded with hostsAdded := recorded.hostsAdded + 1 }
        else recorded
      else recorded.recordFailedHost f.host.id) = r.plus (ofUpkeep b f) := by
  have hrecorded : ((r.record f.first).record f.second).record f.third =
      r.plus (ofEntries (b.upkeep f)) := by
    rw [record_eq (.ok (b.workload f.host)), record_eq (.ok (b.hostConfigMap f.host)),
      record_eq (b.hostService f.host), plus_assoc, plus_assoc, ← ofEntries_append,
      ← ofEntries_append]
    rfl
  rw [hrecorded]
  cases hok : f.isOk <;> cases hadd : f.host.flags.add <;>
    simp [ofUpkeep, plus, recordFailedHost, Fate.blamed, ofEntries, hok, hadd]

theorem ofRemoval_eq (f : Fate Unit) (r : PassReport) :
    (let recorded :=
        ((r.recordDeletion f.first).recordDeletion f.second).recordDeletion f.third
      if f.isOk then { recorded with hostsRemoved := recorded.hostsRemoved + 1 }
      else recorded.recordFailedHost f.host.id) = r.plus (ofRemoval f) := by
  have hrecorded :
      ((r.recordDeletion f.first).recordDeletion f.second).recordDeletion f.third =
        r.plus (ofEntries f.removal) := by
    rw [recordDeletion_eq .configMap f.host.ns f.host.address.configMapName,
      recordDeletion_eq .service f.host.ns f.host.address.workloadName,
      recordDeletion_eq .statefulSet f.host.ns f.host.address.workloadName, plus_assoc, plus_assoc,
      ← ofEntries_append, ← ofEntries_append]
    rfl
  rw [hrecorded]
  cases hok : f.isOk <;>
    simp [ofRemoval, plus, recordFailedHost, Fate.blamed, ofEntries, hok]

theorem ofSweep_append (entries more : List Entry) :
    ofSweep (entries ++ more) = (ofSweep entries).plus (ofSweep more) := by
  simp [ofSweep, ofEntries, plus]

theorem sum_ofUpkeep (b : Blueprint) (fates : List (Fate ObjectOutcome)) :
    sum (fates.map (ofUpkeep b)) =
      { ofEntries (fates.flatMap b.upkeep) with
        failedHosts := fates.flatMap Fate.blamed
        hostsAdded := fates.countP fun f => f.host.flags.add && f.isOk } := by
  induction fates with
  | nil => rfl
  | cons f rest ih =>
    change (ofUpkeep b f).plus (sum (rest.map (ofUpkeep b))) = _
    rw [ih]
    simp [ofUpkeep, ofEntries, plus, List.countP_cons, Nat.add_comm]

theorem sum_ofRemoval (fates : List (Fate Unit)) :
    sum (fates.map ofRemoval) =
      { ofEntries (fates.flatMap Fate.removal) with
        failedHosts := fates.flatMap Fate.blamed
        hostsRemoved := fates.countP Fate.isOk } := by
  induction fates with
  | nil => rfl
  | cons f rest ih =>
    change (ofRemoval f).plus (sum (rest.map ofRemoval)) = _
    rw [ih]
    simp [ofRemoval, ofEntries, plus, List.countP_cons, Nat.add_comm]

theorem sum_ofSweep {γ : Type} (entries : γ → List Entry) (parts : List γ) :
    sum (parts.map fun part => ofSweep (entries part)) = ofSweep (parts.flatMap entries) := by
  induction parts with
  | nil => rfl
  | cons part rest ih =>
    rw [List.flatMap_cons, ofSweep_append, ← ih]
    rfl

end PassReport

namespace Reconcile

variable {b : Blueprint} {regarding : Regarding} {report report' : PassReport} {host : Host}
  {log : List Exchange}

theorem dialogue_reconcileHost (h : Dialogue (reconcileHost b regarding report host) log report') :
    ∃ f : Fate ObjectOutcome, f.host = host ∧ Chronicle regarding (b.upkeep f) log ∧
      report' = report.plus (.ofUpkeep b f) := by
  obtain ⟨_, service, _, rfl, hservice, h⟩ := dialogue_bind.1 h
  obtain ⟨_, configMap, _, rfl, hconfigMap, h⟩ := dialogue_bind.1 h
  obtain ⟨_, workload, last, rfl, hworkload, h⟩ := dialogue_bind.1 h
  let f : Fate ObjectOutcome := ⟨host, service, configMap, workload⟩
  refine ⟨f, rfl, ?_⟩
  rw [← PassReport.ofUpkeep_eq]
  change Dialogue (if f.isOk then pure _ else pure _) _ _ at h
  rw [← apply_ite pure] at h
  obtain ⟨rfl, rfl⟩ := dialogue_pure.1 h
  exact ⟨.entry hservice (.entry hconfigMap (.entry hworkload .nil)), rfl⟩

theorem dialogue_removeHost (h : Dialogue (removeHost regarding report host) log report') :
    ∃ f : Fate Unit, f.host = host ∧ Chronicle regarding f.removal log ∧
      report' = report.plus (.ofRemoval f) := by
  obtain ⟨_, workload, _, rfl, hworkload, h⟩ := dialogue_bind.1 h
  obtain ⟨_, service, _, rfl, hservice, h⟩ := dialogue_bind.1 h
  obtain ⟨_, configMap, last, rfl, hconfigMap, h⟩ := dialogue_bind.1 h
  let f : Fate Unit := ⟨host, workload, service, configMap⟩
  have haside : Chronicle regarding [] last ∧ report' = report.plus (.ofRemoval f) := by
    rw [← PassReport.ofRemoval_eq]
    change Dialogue (if f.isOk then _ else _) _ _ at h
    cases hok : f.isOk with
    | true =>
      rw [if_pos hok] at h
      obtain ⟨_, _, _, rfl, hforget, h⟩ := dialogue_bind.1 h
      obtain ⟨rfl, rfl⟩ := dialogue_pure.1 h
      obtain rfl := dialogue_call.1 hforget
      exact ⟨.aside _ rfl .nil, rfl⟩
    | false =>
      rw [if_neg (by rw [hok]; decide)] at h
      obtain ⟨rfl, rfl⟩ := dialogue_pure.1 h
      exact ⟨.nil, rfl⟩
  exact ⟨f, rfl, .entry hworkload (.entry hservice (.entry hconfigMap haside.1)), haside.2⟩

/-- A part that is done for each of some items adds up what it comes to for each of them. -/
theorem dialogue_foldlM {α γ : Type} {f : PassReport → α → Program PassReport} {xs : List α}
    {item : γ → α} {entries : γ → List Entry} {gain : γ → PassReport}
    (part : ∀ {report x log report'}, Dialogue (f report x) log report' →
      ∃ c, item c = x ∧ Chronicle regarding (entries c) log ∧ report' = report.plus (gain c))
    (h : Dialogue (xs.foldlM f report) log report') :
    ∃ parts : List γ, parts.map item = xs ∧ Chronicle regarding (parts.flatMap entries) log ∧
      report' = report.plus (.sum (parts.map gain)) := by
  induction xs generalizing report log with
  | nil =>
    obtain ⟨rfl, rfl⟩ := dialogue_pure.1 h
    exact ⟨[], rfl, .nil, (PassReport.plus_empty _).symm⟩
  | cons x xs ih =>
    rw [List.foldlM_cons] at h
    obtain ⟨before, between, after, rfl, hfirst, hrest⟩ := dialogue_bind.1 h
    obtain ⟨c, rfl, hsaid, rfl⟩ := part hfirst
    obtain ⟨parts, rfl, hlater, rfl⟩ := ih hrest
    exact ⟨c :: parts, rfl, hsaid.append hlater, PassReport.plus_assoc ..⟩

end Reconcile

namespace Blueprint

/-- A Service that is not wanted is no duty. -/
def wantedDuties : Outcome (Option (Resource .service)) → List Duty
  | .ok (some desired) => [.apply (.ok desired)]
  | .ok none => []
  | .error e => [.apply (.error e : Outcome (Resource .service))]

def clusterDuties (b : Blueprint) (c : Cluster) : List Duty :=
  wantedDuties (b.clusterService? c) ++
    (c.shards.flatMap fun shard => wantedDuties (b.shardService? c shard)) ++
    [.apply (.ok (b.budget c))]

/-- What there is to do for the installation as a whole, besides the common files. -/
def sharedDuties (b : Blueprint) : List Duty :=
  [.apply (.ok b.usersConfigMap), .apply b.installationService] ++
    b.installation.clusters.flatMap b.clusterDuties

/-- The stale objects are to be deleted, as far as they could be listed. -/
def staleDuties (b : Blueprint) {kind : Kind} : Outcome (List (Resource kind)) → List Duty
  | .ok existing =>
    (b.staleObjects existing).map fun object => .delete kind b.installation.ns object.anyName
  | .error _ => []

end Blueprint

/-- What became of the sweep of a kind. -/
structure Sweeping (b : Blueprint) where
  kind : Kind
  listing : Outcome (List (Resource kind))
  deletions : List Entry
  all_stale : deletions.map Entry.duty = b.staleDuties listing

def Sweeping.entries {b : Blueprint} (sweeping : Sweeping b) : List Entry :=
  ⟨.list sweeping.kind b.installation.ns b.installation.selector, sweeping.listing⟩ ::
    sweeping.deletions

namespace Reconcile

/-- The part of a pass carries out the duties, whatever comes of each, and adds what comes of them
to the report. -/
structure Performs (regarding : Regarding) (duties : List Duty)
    (part : PassReport → Program PassReport) : Prop where
  account : ∀ {report log report'}, Dialogue (part report) log report' →
    ∃ entries, entries.map Entry.duty = duties ∧ Chronicle regarding entries log ∧
      report' = report.plus (.ofEntries entries)

section Performs

variable {regarding : Regarding} {b : Blueprint} {duties more : List Duty}
  {p q : PassReport → Program PassReport}

theorem performs_pure : Performs regarding [] fun report => pure report where
  account h := by
    obtain ⟨rfl, rfl⟩ := dialogue_pure.1 h
    exact ⟨[], rfl, .nil, (PassReport.plus_empty _).symm⟩

theorem Performs.bind (hp : Performs regarding duties p) (hq : Performs regarding more q) :
    Performs regarding (duties ++ more) fun report => p report >>= q where
  account h := by
    obtain ⟨before, between, after, rfl, hfirst, hsecond⟩ := dialogue_bind.1 h
    obtain ⟨entries, hentries, hsaid, rfl⟩ := hp.account hfirst
    obtain ⟨others, hothers, hlater, rfl⟩ := hq.account hsecond
    refine ⟨entries ++ others, ?_, hsaid.append hlater, ?_⟩
    · rw [List.map_append, hentries, hothers]
    · rw [PassReport.ofEntries_append, PassReport.plus_assoc]

theorem performs_foldlM {α : Type} {f : PassReport → α → Program PassReport}
    {duties : α → List Duty} (xs : List α)
    (h : ∀ x, Performs regarding (duties x) fun report => f report x) :
    Performs regarding (xs.flatMap duties) fun report => xs.foldlM f report := by
  induction xs with
  | nil => exact performs_pure
  | cons x xs ih =>
    simp only [List.foldlM_cons, List.flatMap_cons]
    exact (h x).bind ih

theorem dialogue_attempt {kind : Kind} (desired : Outcome (Resource kind))
    {report report' : PassReport} {log : List Exchange}
    (h : Dialogue (do return report.record (← reconcileBuilt regarding desired)) log report') :
    ∃ outcome : Outcome ObjectOutcome, Chronicle regarding [⟨.apply desired, outcome⟩] log ∧
      report' = report.plus (.ofEntries [⟨.apply desired, outcome⟩]) := by
  obtain ⟨_, outcome, last, rfl, hattempt, h⟩ := dialogue_bind.1 h
  obtain ⟨rfl, rfl⟩ := dialogue_pure.1 h
  exact ⟨outcome, .entry hattempt .nil, PassReport.record_eq ..⟩

theorem performs_attempt {kind : Kind} (desired : Outcome (Resource kind)) :
    Performs regarding [.apply desired] fun report => do
      return report.record (← reconcileBuilt regarding desired) where
  account h := by
    obtain ⟨outcome, hsaid, hreport⟩ := dialogue_attempt desired h
    exact ⟨[⟨.apply desired, outcome⟩], rfl, hsaid, hreport⟩

theorem performs_reconcileWanted (wanted : Outcome (Option (Resource .service))) :
    Performs regarding (Blueprint.wantedDuties wanted)
      fun report => reconcileWanted regarding report wanted := by
  match wanted with
  | .ok (some desired) => exact performs_attempt (.ok desired)
  | .ok none => exact performs_pure
  | .error e => exact performs_attempt (.error e : Outcome (Resource .service))

theorem performs_reconcileCluster (c : Cluster) :
    Performs regarding (b.clusterDuties c) fun report => reconcileCluster b regarding report c := by
  have hshards : Performs regarding
      (c.shards.flatMap fun shard => Blueprint.wantedDuties (b.shardService? c shard)) _ :=
    performs_foldlM c.shards fun shard => performs_reconcileWanted (b.shardService? c shard)
  rw [Blueprint.clusterDuties, List.append_assoc]
  exact (performs_reconcileWanted (b.clusterService? c)).bind
    (hshards.bind (performs_attempt (.ok (b.budget c))))

theorem performs_reconcileShared :
    Performs regarding b.sharedDuties (reconcileShared b regarding) := by
  have hclusters : Performs regarding (b.installation.clusters.flatMap b.clusterDuties)
      fun report => b.installation.clusters.foldlM (reconcileCluster b regarding) report :=
    performs_foldlM b.installation.clusters performs_reconcileCluster
  have hservice := (performs_attempt b.installationService).bind hclusters
  have h := (performs_attempt (.ok b.usersConfigMap)).bind hservice
  simp only [LawfulMonad.bind_assoc, pure_bind] at h
  exact h

end Performs

section Pass

variable {b : Blueprint} {regarding : Regarding} {report report' : PassReport} {kind : Kind}
  {log : List Exchange}

theorem dialogue_sweepObjects {objects : List (Resource kind)}
    (h : Dialogue (objects.foldlM (sweepObject b regarding) report) log report') :
    ∃ entries : List Entry,
      entries.map Entry.duty =
        (objects.map fun object => .delete kind b.installation.ns object.anyName) ∧
      Chronicle regarding entries log ∧ report' = report.plus (.ofSweep entries) := by
  induction objects generalizing report log with
  | nil =>
    obtain ⟨rfl, rfl⟩ := dialogue_pure.1 h
    exact ⟨[], rfl, .nil, (PassReport.plus_empty _).symm⟩
  | cons object rest ih =>
    rw [List.foldlM_cons] at h
    obtain ⟨before, between, after, rfl, hfirst, hrest⟩ := dialogue_bind.1 h
    obtain ⟨said, outcome, last, rfl, hdelete, hfirst⟩ := dialogue_bind.1 hfirst
    obtain ⟨entries, hentries, hlater, rfl⟩ := ih hrest
    let entry : Entry := ⟨.delete kind b.installation.ns object.anyName, outcome⟩
    have hdone : last = [] ∧ between = report.plus (.ofSweep [entry]) := by
      cases outcome with
      | ok done =>
        obtain ⟨rfl, rfl⟩ := dialogue_pure.1 hfirst
        refine ⟨rfl, ?_⟩
        change _ = report.plus { objectsRemoved := 1 }
        simp [PassReport.plus]
      | error e =>
        obtain ⟨rfl, rfl⟩ := dialogue_pure.1 hfirst
        refine ⟨rfl, ?_⟩
        change _ = report.plus { failures := [e] }
        simp [PassReport.recordFailure, PassReport.plus]
    obtain ⟨rfl, rfl⟩ := hdone
    rw [List.append_nil, PassReport.plus_assoc]
    refine ⟨entry :: entries, by rw [List.map_cons, hentries]; rfl, .entry hdelete hlater, ?_⟩
    rw [show entry :: entries = [entry] ++ entries from rfl, PassReport.ofSweep_append]

theorem dialogue_sweepKind (h : Dialogue (sweepKind b regarding report kind) log report') :
    ∃ sweeping : Sweeping b, sweeping.kind = kind ∧ Chronicle regarding sweeping.entries log ∧
      report' = report.plus (.ofSweep sweeping.entries) := by
  obtain ⟨_, listing, rest, rfl, hlist, h⟩ := dialogue_bind.1 h
  cases listing with
  | error e =>
    obtain ⟨rfl, rfl⟩ := dialogue_pure.1 h
    refine ⟨⟨kind, .error e, [], rfl⟩, rfl, .entry hlist .nil, ?_⟩
    change _ = report.plus { failures := [e] }
    simp [PassReport.recordFailure, PassReport.plus]
  | ok existing =>
    obtain ⟨entries, hentries, hsaid, rfl⟩ := dialogue_sweepObjects h
    exact ⟨⟨kind, .ok existing, entries, hentries⟩, rfl, .entry hlist hsaid, rfl⟩

theorem dialogue_dropDnsCaches {i : Installation}
    (h : Dialogue (dropDnsCaches i report) log ()) : Chronicle regarding [] log := by
  unfold dropDnsCaches at h
  dsimp only at h
  generalize i.hosts.filter _ = stale at h
  induction stale generalizing log with
  | nil =>
    obtain ⟨rfl, -⟩ := dialogue_pure.1 h
    exact .nil
  | cons host rest ih =>
    obtain ⟨_, _, after, rfl, hfirst, hrest⟩ := dialogue_bind.1 h
    obtain ⟨_, _, last, rfl, hdrop, hdone⟩ := dialogue_bind.1 hfirst
    obtain ⟨rfl, -⟩ := dialogue_pure.1 hdone
    obtain rfl := dialogue_call.1 hdrop
    exact .aside _ rfl (ih hrest)

end Pass

end Reconcile

/-- What became of everything that a pass attempts after the observation. There is an entry for all
that there is to do, and for nothing else. -/
structure Ledger (b : Blueprint) where
  opening : Outcome ObjectOutcome
  hosts : List (Fate ObjectOutcome)
  orphans : List (Fate Unit)
  closing : Outcome ObjectOutcome
  shared : List Entry
  swept : List (Sweeping b)
  all_hosts : hosts.map Fate.host = b.installation.hosts
  all_orphans : orphans.map Fate.host = b.installation.removed
  all_shared : shared.map Entry.duty = b.sharedDuties
  all_swept : swept.map Sweeping.kind = sweptKinds

namespace Ledger

variable {b : Blueprint}

/-- The hosts and orphans with a failed attempt of their own, by their ids. -/
def blamed (l : Ledger b) : List HostId :=
  l.hosts.flatMap Fate.blamed ++ l.orphans.flatMap Fate.blamed

/-- The common files are brought about first, and again after the orphans are gone. -/
def entries (l : Ledger b) : List Entry :=
  [⟨.apply (.ok (b.commonConfigMap peersBefore)), l.opening⟩] ++
    (l.hosts.flatMap b.upkeep ++ l.orphans.flatMap Fate.removal) ++
    [⟨.apply (.ok (b.commonConfigMap (Exclusion.none.excludeIds l.blamed))), l.closing⟩] ++
    l.shared ++ l.swept.flatMap Sweeping.entries

/-- What a report has to say. -/
def report (l : Ledger b) : PassReport where
  outcomes := l.entries.filterMap Entry.outcome?
  failures := l.entries.filterMap Entry.failure?
  failedHosts := l.blamed
  hostsAdded := l.hosts.countP fun f => f.host.flags.add && f.isOk
  hostsRemoved := l.orphans.countP Fate.isOk
  objectsRemoved := (l.swept.flatMap Sweeping.entries).countP Entry.isDeletion

end Ledger

namespace Reconcile

variable {b : Blueprint} {regarding : Regarding} {report : PassReport} {log : List Exchange}

/-- Whatever is replied, all that there is to do is attempted, and the report says what came of
it. -/
theorem exists_ledger (h : Dialogue (converge b regarding) log report) :
    ∃ l : Ledger b, Chronicle regarding l.entries log ∧ report = l.report := by
  -- The parts of a pass are told apart first, then each has its place in the ledger.
  obtain ⟨_, opened, _, rfl, h₁, h⟩ := dialogue_bind.1 h
  obtain ⟨_, kept, _, rfl, h₂, h⟩ := dialogue_bind.1 h
  obtain ⟨_, removed, _, rfl, h₃, h⟩ := dialogue_bind.1 h
  obtain ⟨_, closed, _, rfl, h₄, h⟩ := dialogue_bind.1 h
  obtain ⟨_, settled, _, rfl, h₅, h⟩ := dialogue_bind.1 h
  obtain ⟨_, swept, last, rfl, h₆, h⟩ := dialogue_bind.1 h
  obtain ⟨opening, hopening, hopened⟩ := dialogue_attempt (.ok (b.commonConfigMap peersBefore)) h₁
  obtain ⟨hosts, all_hosts, hhosts, hkept⟩ := dialogue_foldlM dialogue_reconcileHost h₂
  obtain ⟨orphans, all_orphans, horphans, hremoved⟩ := dialogue_foldlM dialogue_removeHost h₃
  obtain ⟨closing, hclosing, hclosed⟩ :=
    dialogue_attempt (.ok (b.commonConfigMap (peersAfter removed))) h₄
  obtain ⟨shared, all_shared, hshared, hsettled⟩ := performs_reconcileShared.account h₅
  obtain ⟨sweepings, all_swept, hsweepings, hswept⟩ := dialogue_foldlM dialogue_sweepKind h₆
  rw [PassReport.sum_ofUpkeep] at hkept
  rw [PassReport.sum_ofRemoval] at hremoved
  rw [PassReport.sum_ofSweep] at hswept
  let l : Ledger b :=
    { opening, hosts, orphans, closing, shared, swept := sweepings, all_hosts, all_orphans,
      all_shared, all_swept }
  have hpeers : peersAfter removed = Exclusion.none.excludeIds l.blamed := by
    rw [peersAfter, hremoved, hkept, hopened]
    rfl
  rw [hpeers] at hclosing hclosed
  have hlast : Chronicle regarding [] last ∧ report = swept := by
    change Dialogue (ite _ _ _) _ _ at h
    split at h
    · obtain ⟨_, _, _, rfl, hdrop, h⟩ := dialogue_bind.1 h
      obtain ⟨rfl, rfl⟩ := dialogue_pure.1 h
      rw [List.append_nil]
      exact ⟨dialogue_dropDnsCaches hdrop, rfl⟩
    · obtain ⟨rfl, rfl⟩ := dialogue_pure.1 h
      exact ⟨.nil, rfl⟩
  refine ⟨l, ?_, ?_⟩
  · have hall := hopening.append (hhosts.append (horphans.append (hclosing.append
      (hshared.append (hsweepings.append hlast.1)))))
    simpa only [Ledger.entries, List.append_assoc, List.append_nil, l] using hall
  · rw [hlast.2, hswept, hsettled, hclosed, hremoved, hkept, hopened]
    simp only [PassReport.plus, PassReport.ofEntries, PassReport.ofSweep, Ledger.report,
      Ledger.entries, List.filterMap_append, List.append_assoc, List.nil_append, List.append_nil,
      Nat.zero_add, Nat.add_zero, Ledger.blamed, l]

end Reconcile

end ShardOperator
