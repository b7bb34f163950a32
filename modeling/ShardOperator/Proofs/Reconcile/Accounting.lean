import Mathlib.Data.List.Nodup
import ShardOperator.Proofs.Reconcile.Convergence
import ShardOperator.Proofs.Reconcile.Ledger
import ShardOperator.Proofs.Topology.Alignment

namespace ShardOperator

open Program Reconcile

variable {flavour : Flavour} {defaults : HostDefaults} {chi : InstallationResource}
  {i : Installation} {existing : List (Resource .statefulSet)}

section Duties

variable {regarding : Regarding} {kind : Kind} {log : List Exchange}

/-- The request is no call, or one on the object. -/
def Request.Concerns (kind : Kind) (ns name : String) (request : Request) : Prop :=
  ∀ call, request.call? = some call → call.kind = kind ∧ call.ns = ns ∧ call.name = name

/-- Bringing about an object begins with a look at it, and calls on nothing else. -/
theorem Duty.carryOut_apply {desired : Resource kind} {result : Outcome ObjectOutcome}
    (h : Dialogue ((Duty.apply (.ok desired)).carryOut regarding) log result) :
    ∃ reply rest, log = ⟨.get kind desired.ns desired.name, reply⟩ :: rest ∧
      ∀ x ∈ rest, x.request.Concerns kind desired.ns desired.name := by
  have only : Only (Request.Concerns kind desired.ns desired.name)
      (reconcileObject regarding desired) := by
    refine only_reconcileObject ?_ ?_ (fun hm => ?_) ?_ fun event _ => ?_
    all_goals
      intro call hcall
      cases hcall
    · exact ⟨rfl, rfl, rfl⟩
    · exact ⟨rfl, rfl, rfl⟩
    · exact ⟨rfl, Resource.ns_migrate hm, Resource.name_migrate hm⟩
    · exact ⟨rfl, rfl, rfl⟩
  have hsaid := only.of_dialogue h
  obtain ⟨_, reply, rest, rfl, hget, -⟩ := dialogue_bind.1 h
  obtain rfl := dialogue_call.1 hget
  exact ⟨reply, rest, rfl, fun x hx => hsaid x (List.mem_cons_of_mem _ hx)⟩

theorem Duty.carryOut_unbuilt {e : OperatorError} {result : Outcome ObjectOutcome}
    (h : Dialogue ((Duty.apply (.error e : Outcome (Resource kind))).carryOut regarding) log
      result) : log = [] ∧ result = .error e :=
  dialogue_pure.1 h

theorem Duty.carryOut_delete {ns name : String} {result : Outcome Unit}
    (h : Dialogue ((Duty.delete kind ns name).carryOut regarding) log result) :
    ∃ reply rest, log = ⟨.delete kind ns name, reply⟩ :: rest ∧
      (∀ x ∈ rest, x.isCall = false) ∧
      ∀ e, result = .error e ↔ reply = .error e ∧ e.isNotFound = false := by
  obtain ⟨_, reply, rest, rfl, hdelete, hdone⟩ := dialogue_bind.1 h
  obtain rfl := dialogue_call.1 hdelete
  refine ⟨reply, rest, rfl, ?_⟩
  have aside (x : Exchange) (event : Event) (hx : x ∈ [⟨.publish regarding event, ()⟩]) :
      x.isCall = false := by
    rw [List.mem_singleton.1 hx]
    rfl
  cases reply with
  | ok granted =>
    obtain ⟨_, _, _, rfl, hnews, hdone⟩ := dialogue_bind.1 hdone
    obtain ⟨rfl, rfl⟩ := dialogue_pure.1 hdone
    obtain rfl := dialogue_call.1 hnews
    exact ⟨fun x hx => aside x _ hx, fun e => by simp⟩
  | error e =>
    change Dialogue (ite _ _ _) _ _ at hdone
    cases hgone : e.isNotFound with
    | true =>
      rw [if_pos hgone] at hdone
      obtain ⟨rfl, rfl⟩ := dialogue_pure.1 hdone
      refine ⟨fun x hx => absurd hx List.not_mem_nil, fun e' => ⟨(fun h => nomatch h), ?_⟩⟩
      rintro ⟨heq, hfound⟩
      rw [← Except.error.inj heq, hgone] at hfound
      cases hfound
    | false =>
      rw [if_neg (by rw [hgone]; exact Bool.false_ne_true)] at hdone
      obtain ⟨_, _, _, rfl, hnews, hdone⟩ := dialogue_bind.1 hdone
      obtain ⟨rfl, rfl⟩ := dialogue_pure.1 hdone
      obtain rfl := dialogue_call.1 hnews
      refine ⟨fun x hx => aside x _ hx, fun e' => ⟨fun heq => ⟨heq, ?_⟩, And.left⟩⟩
      rw [← Except.error.inj heq, hgone]

theorem calls_delete {ns name : String} {result : Outcome Unit}
    (h : Dialogue ((Duty.delete kind ns name).carryOut regarding) log result) :
    callsOf log = [⟨.delete, kind, ns, name⟩] := by
  obtain ⟨reply, rest, rfl, hrest, -⟩ := Duty.carryOut_delete h
  exact congrArg (⟨.delete, kind, ns, name⟩ :: ·) (callsOf_of_isCall hrest)

/-- What is said for an entry, and how its result follows from the replies. What could not be built
has failed without a call, what could is looked up before any other call on it, and a deletion of
what is not there has not failed. -/
def Entry.Tells (said : List Exchange) : Entry → Prop
  | ⟨.apply (.error e), result⟩ => said = [] ∧ result = .error e
  | ⟨@Duty.apply kind (.ok desired), _⟩ => ∃ reply rest,
    said = ⟨.get kind desired.ns desired.name, reply⟩ :: rest ∧
      ∀ x ∈ rest, x.request.Concerns kind desired.ns desired.name
  | ⟨.delete kind ns name, result⟩ => ∃ reply rest,
    said = ⟨.delete kind ns name, reply⟩ :: rest ∧ (∀ x ∈ rest, x.isCall = false) ∧
      ∀ e, result = .error e ↔ reply = .error e ∧ e.isNotFound = false
  | ⟨.list kind ns selector, result⟩ => said = [⟨.list kind ns selector, result⟩]

theorem Entry.tells {entry : Entry}
    (h : Dialogue (entry.duty.carryOut regarding) log entry.result) : entry.Tells log := by
  match entry with
  | ⟨.apply (.error e), result⟩ => exact Duty.carryOut_unbuilt h
  | ⟨.apply (.ok desired), result⟩ => exact Duty.carryOut_apply h
  | ⟨.delete kind ns name, result⟩ => exact Duty.carryOut_delete h
  | ⟨.list kind ns selector, result⟩ => exact dialogue_call.1 h

/-- What is said is said for the entries, one after the other, and no calls are made besides. -/
def Ledger.Covers {b : Blueprint} (l : Ledger b) (log : List Exchange) : Prop :=
  ∃ parts : List (Entry × List Exchange), parts.map Prod.fst = l.entries ∧
    (∀ part ∈ parts, part.1.Tells part.2) ∧ callsOf log = parts.flatMap fun part => callsOf part.2

theorem Ledger.covers {b : Blueprint} {l : Ledger b} (h : Chronicle regarding l.entries log) :
    l.Covers log := by
  obtain ⟨parts, hentries, hparts, hcalls⟩ := h.parts
  exact ⟨parts, hentries, fun part hpart => Entry.tells (hparts part hpart), hcalls⟩

end Duties

/-- The blueprint of a pass that has seen the workloads. -/
abbrev Installation.seenAs (i : Installation) (existing : List (Resource .statefulSet))
    (defaults : HostDefaults) (flavour : Flavour) : Blueprint :=
  ⟨observed i existing, defaults, flavour⟩

namespace Reconcile

theorem dialogue_writeStatus {ns name : String} {status : InstallationStatus}
    {log : List Exchange} {value : Unit}
    (h : Dialogue (writeStatus ns name status) log value) :
    ∃ reply, log = [⟨.writeStatus ns name status, reply⟩] := by
  obtain ⟨_, reply, _, rfl, hcall, h⟩ := dialogue_bind.1 h
  obtain ⟨rfl, -⟩ := dialogue_pure.1 h
  exact ⟨reply, by rw [dialogue_call.1 hcall, List.append_nil]⟩

/-- An observation asks for the workloads, and the installation that was observed follows from
them. -/
theorem dialogue_observe {log : List Exchange} {outcome : Outcome Installation}
    (h : Dialogue (observe i) log outcome) :
    ∃ listed, log = [⟨.list .statefulSet i.ns i.selector, listed⟩] ∧
      outcome = listed.map (observed i) := by
  obtain ⟨_, listed, rest, rfl, hlist, hseen⟩ := dialogue_bind.1 h
  obtain rfl := dialogue_call.1 hlist
  refine ⟨listed, ?_⟩
  cases listed with
  | ok existing =>
    obtain ⟨rfl, rfl⟩ := dialogue_pure.1 hseen
    exact ⟨rfl, rfl⟩
  | error e =>
    obtain ⟨rfl, rfl⟩ := dialogue_pure.1 hseen
    exact ⟨rfl, rfl⟩

/-- What a pass over an accepted resource says: that it starts, what it asks about the workloads,
and, if it is told, all that follows from them; if not, that it has been aborted. -/
theorem dialogue_pass (hnormal : chi.normalize defaults = .ok i) {log : List Exchange}
    {outcome : Outcome PassReport} (h : Dialogue (pass flavour defaults chi) log outcome) :
    ∃ stated listed later,
      log = [⟨.writeStatus i.ns i.name startedStatus, stated⟩,
        ⟨.publish chi.reference .started, ()⟩] ++
        ⟨.list .statefulSet i.ns i.selector, listed⟩ :: later ∧
      (∀ e, listed = .error e → ∃ closed, outcome = .error e ∧
        later = [⟨.writeStatus i.ns i.name (abortedStatus chi "observe failed" e), closed⟩]) ∧
      ∀ existing, listed = .ok existing →
        ∃ report body closed,
          outcome = .ok report ∧
          Dialogue (converge (i.seenAs existing defaults flavour) chi.reference) body report ∧
          later = body ++
            [⟨.writeStatus i.ns i.name (finalStatus chi (observed i existing) report), closed⟩,
              ⟨.publish chi.reference (outcomeEvent report), ()⟩] := by
  unfold pass at h
  rw [hnormal] at h
  obtain ⟨_, _, _, rfl, hstart, h⟩ := dialogue_bind.1 h
  obtain ⟨_, _, _, rfl, hnews, h⟩ := dialogue_bind.1 h
  obtain ⟨_, seen, rest, rfl, hobserve, h⟩ := dialogue_bind.1 h
  obtain ⟨stated, rfl⟩ := dialogue_writeStatus hstart
  obtain rfl := dialogue_publish hnews
  obtain ⟨listed, rfl, rfl⟩ := dialogue_observe hobserve
  refine ⟨stated, listed, rest, rfl, fun e hlisted => ?_, fun existing hlisted => ?_⟩
  · subst hlisted
    obtain ⟨_, _, _, rfl, hstatus, h⟩ := dialogue_bind.1 h
    obtain ⟨rfl, rfl⟩ := dialogue_pure.1 h
    obtain ⟨closed, rfl⟩ := dialogue_writeStatus hstatus
    exact ⟨closed, rfl, rfl⟩
  · subst hlisted
    obtain ⟨body, report, _, rfl, hconverge, h⟩ := dialogue_bind.1 h
    obtain ⟨_, _, _, rfl, hstatus, h⟩ := dialogue_bind.1 h
    obtain ⟨_, _, _, rfl, hend, h⟩ := dialogue_bind.1 h
    obtain ⟨rfl, rfl⟩ := dialogue_pure.1 h
    obtain ⟨closed, rfl⟩ := dialogue_writeStatus hstatus
    obtain rfl := dialogue_publish hend
    exact ⟨report, body, closed, rfl, hconverge, rfl⟩

end Reconcile

namespace InstallationStatus

/-- The latest errors, as many as a status keeps. -/
def latest (errors : List String) : List String := errors.drop (errors.length - maxErrors)

theorem latest_latest_append (errors : List String) (error : String) :
    latest (latest errors ++ [error]) = latest (errors ++ [error]) := by
  unfold latest
  by_cases hfew : errors.length < maxErrors
  · rw [Nat.sub_eq_zero_of_le (Nat.le_of_lt hfew), List.drop_zero]
  · simp only [List.length_append, List.length_drop, List.length_singleton]
    rw [List.drop_append_of_le_length (by simp only [List.length_drop, maxErrors] at *; omega),
      List.drop_append_of_le_length (by simp only [maxErrors] at *; omega), List.drop_drop]
    congr 2
    simp only [maxErrors] at *
    omega

/-- Of the errors that are pushed one after the other, the latest stay. -/
theorem foldl_pushError (failures : List OperatorError) (past : List String)
    {status : InstallationStatus} (h : status.errors = latest past) :
    failures.foldl (fun status e => status.pushError e.message) status =
      { status with errors := latest (past ++ failures.map OperatorError.message) } := by
  induction failures generalizing status past with
  | nil => rw [List.foldl_nil, List.map_nil, List.append_nil, ← h]
  | cons e rest ih =>
    have hpush : (status.pushError e.message).errors = latest (past ++ [e.message]) := by
      rw [← latest_latest_append, ← h]
      rfl
    rw [List.foldl_cons, ih _ hpush, List.append_assoc, List.map_cons, List.singleton_append]
    rfl

end InstallationStatus

namespace Reconcile

/-- What the last status of a pass says of it. -/
structure Concludes (i : Installation) (report : PassReport) (status : InstallationStatus) :
    Prop where
  phase : status.status = if report.isSuccess then .completed else .aborted
  hosts : status.hosts = countOf i.hosts.length
  hostsCompleted : status.hostsCompleted = countOf (i.hosts.length -
    (report.failedHosts.filter fun id => (i.host? id).isSome).length)
  hostsAdded : status.hostsAdded = countOf report.hostsAdded
  hostsWithErrors : status.hostsWithErrors = countOf report.failedHosts.length
  errors : status.errors =
    InstallationStatus.latest (report.failures.map OperatorError.message)

theorem concludes_finalStatus (chi : InstallationResource) (i : Installation)
    (report : PassReport) : Concludes i report (finalStatus chi i report) := by
  unfold finalStatus
  dsimp only
  rw [InstallationStatus.foldl_pushError report.failures [] rfl]
  constructor <;> rfl

end Reconcile

theorem Fate.countP_isOk_add {α : Type} (fates : List (Fate α)) :
    fates.countP Fate.isOk + (fates.flatMap Fate.blamed).length = fates.length := by
  induction fates with
  | nil => rfl
  | cons f rest ih =>
    rw [List.flatMap_cons, List.length_append, List.countP_cons, List.length_cons, Fate.blamed]
    cases f.isOk with
    | true =>
      rw [if_pos rfl, if_pos rfl, List.length_nil]
      omega
    | false =>
      rw [if_neg Bool.false_ne_true, if_neg Bool.false_ne_true, List.length_singleton]
      omega

theorem Fate.mem_blamed {α : Type} {fates : List (Fate α)} {id : HostId} :
    id ∈ fates.flatMap Fate.blamed ↔ ∃ f ∈ fates, f.isOk = false ∧ f.host.id = id := by
  simp only [List.mem_flatMap, Fate.blamed]
  refine exists_congr fun f => and_congr_right fun _ => ?_
  cases f.isOk <;> simp [eq_comm]

/-- Where no two have an id in common, one is blamed for its own failures only. -/
theorem Fate.id_mem_blamed {α : Type} {fates : List (Fate α)}
    (distinct : ((fates.map Fate.host).map Host.id).Nodup) {f : Fate α} (hf : f ∈ fates) :
    f.host.id ∈ fates.flatMap Fate.blamed ↔ f.isOk = false := by
  rw [Fate.mem_blamed]
  constructor
  · rintro ⟨g, hg, hfault, heq⟩
    rw [List.map_map] at distinct
    rwa [← List.inj_on_of_nodup_map distinct hg hf heq]
  · exact fun hfault => ⟨f, hf, hfault, rfl⟩

section Observed

variable (aligned : i.Aligned) (hremoved : i.removed = [])
  (hfits : i.clusters.length ≤ HostId.noCluster)

include hremoved in
theorem id_of_mem_removed {host : Host} (h : host ∈ (observed i existing).removed) :
    ∃ n, host.id = .orphan n := by
  obtain ⟨address, n, -, rfl⟩ := (mem_removed_observed hremoved).1 h
  exact ⟨n, rfl⟩

include hremoved in
theorem nodup_removed : ((observed i existing).removed.map Host.id).Nodup := by
  have hids : (observed i existing).removed.map Host.id =
      ((orphanAddresses i existing).zipIdx.map Prod.snd).map HostId.orphan := by
    simp only [observed, hremoved, List.nil_append, List.map_map, List.length_nil, Nat.zero_add,
      Function.comp_def]
    rfl
  rw [hids, List.zipIdx_map_snd]
  refine List.Pairwise.map HostId.orphan (fun m n hne heq => hne ?_) List.nodup_range'
  injection heq

include aligned in
theorem isSome_host?_of_mem_hosts {host : Host} (h : host ∈ (observed i existing).hosts) :
    ((observed i existing).host? host.id).isSome = true := by
  rw [(aligned.observed existing).host?_id h]
  rfl

include hremoved hfits in
theorem isSome_host?_of_mem_removed {host : Host} (h : host ∈ (observed i existing).removed) :
    ((observed i existing).host? host.id).isSome = false := by
  obtain ⟨n, hn⟩ := id_of_mem_removed hremoved h
  have hlength : (observed i existing).clusters.length ≤ HostId.noCluster := by
    rw [show (observed i existing).clusters.length = i.clusters.length from List.length_map ..]
    exact hfits
  rw [hn, Installation.host?_orphan hlength]
  rfl

end Observed

theorem removed_normalize (hnormal : chi.normalize defaults = .ok i) : i.removed = [] := by
  obtain ⟨-, ns, -, hspec⟩ := InstallationResource.normalize_spec hnormal
  rw [hspec]
  rfl

namespace Ledger

/-- Hosts and orphans are to blame for failed attempts of their own, and for nothing else. -/
theorem mem_failedHosts {b : Blueprint} (l : Ledger b) {id : HostId} :
    id ∈ l.report.failedHosts ↔ (∃ f ∈ l.hosts, f.isOk = false ∧ f.host.id = id) ∨
      ∃ f ∈ l.orphans, f.isOk = false ∧ f.host.id = id := by
  change id ∈ l.blamed ↔ _
  rw [blamed, List.mem_append, Fate.mem_blamed, Fate.mem_blamed]

section Blamed

variable (l : Ledger (i.seenAs existing defaults flavour)) (aligned : i.Aligned)
  (hremoved : i.removed = []) (hfits : i.clusters.length ≤ HostId.noCluster)

include aligned hremoved hfits

/-- Among the blamed, those that are hosts of the installation are the hosts with a failure. -/
theorem filter_blamed : (l.blamed.filter fun id => ((observed i existing).host? id).isSome) =
    l.hosts.flatMap Fate.blamed := by
  have hhosts : ∀ id ∈ l.hosts.flatMap Fate.blamed,
      ((observed i existing).host? id).isSome = true := by
    intro id hid
    obtain ⟨f, hf, -, rfl⟩ := Fate.mem_blamed.1 hid
    exact isSome_host?_of_mem_hosts aligned (l.all_hosts ▸ List.mem_map_of_mem hf)
  have horphans : ∀ id ∈ l.orphans.flatMap Fate.blamed,
      ¬ ((observed i existing).host? id).isSome = true := by
    intro id hid
    obtain ⟨f, hf, -, rfl⟩ := Fate.mem_blamed.1 hid
    rw [isSome_host?_of_mem_removed hremoved hfits (l.all_orphans ▸ List.mem_map_of_mem hf)]
    exact Bool.false_ne_true
  rw [Ledger.blamed, List.filter_append, List.filter_eq_self.2 hhosts,
    List.filter_eq_nil_iff.2 horphans, List.append_nil]

theorem id_mem_blamed_host {f : Fate ObjectOutcome} (hf : f ∈ l.hosts) :
    f.host.id ∈ l.blamed ↔ f.isOk = false := by
  have hmem : f.host ∈ (observed i existing).hosts := l.all_hosts ▸ List.mem_map_of_mem hf
  have distinct : ((l.hosts.map Fate.host).map Host.id).Nodup := by
    rw [l.all_hosts]
    exact (aligned.observed existing).nodup_ids
  have hsome := isSome_host?_of_mem_hosts aligned hmem
  rw [← Fate.id_mem_blamed distinct hf, ← l.filter_blamed aligned hremoved hfits,
    List.mem_filter, hsome, and_iff_left rfl]

theorem id_mem_blamed_orphan {f : Fate Unit} (hf : f ∈ l.orphans) :
    f.host.id ∈ l.blamed ↔ f.isOk = false := by
  have hmem : f.host ∈ (observed i existing).removed := l.all_orphans ▸ List.mem_map_of_mem hf
  have distinct : ((l.orphans.map Fate.host).map Host.id).Nodup := by
    rw [l.all_orphans]
    exact nodup_removed hremoved
  have hnone := isSome_host?_of_mem_removed hremoved hfits hmem
  rw [← Fate.id_mem_blamed distinct hf, Ledger.blamed, List.mem_append, or_iff_right]
  intro hid
  rw [← l.filter_blamed aligned hremoved hfits, List.mem_filter, hnone] at hid
  exact Bool.false_ne_true hid.2

end Blamed

/-- What the report and the last status of a pass tell about single hosts, and the counts. -/
structure Reflects (l : Ledger (i.seenAs existing defaults flavour))
    (status : InstallationStatus) : Prop where
  blamedHosts : ∀ f ∈ l.hosts, f.host.id ∈ l.report.failedHosts ↔ f.isOk = false
  blamedOrphans : ∀ f ∈ l.orphans, f.host.id ∈ l.report.failedHosts ↔ f.isOk = false
  hosts : status.hosts.toNat = i.hosts.length
  hostsCompleted : status.hostsCompleted.toNat = l.hosts.countP Fate.isOk
  hostsAdded : status.hostsAdded.toNat = l.report.hostsAdded

theorem reflects_finalStatus (l : Ledger (i.seenAs existing defaults flavour))
    (aligned : i.Aligned) (hremoved : i.removed = []) (hfew : i.hosts.length < UInt32.size) :
    l.Reflects (finalStatus chi (observed i existing) l.report) := by
  have concludes := concludes_finalStatus chi (observed i existing) l.report
  have hhosts : (observed i existing).hosts.length = i.hosts.length := by
    rw [hosts_observed, List.length_map]
  have hlength : l.hosts.length = i.hosts.length := by
    rw [← hhosts, ← l.all_hosts, List.length_map]
  -- There is a host in every cluster, so the clusters are few as well.
  have hfits : i.clusters.length ≤ HostId.noCluster := by
    have := aligned.length_clusters_le
    unfold UInt32.size at hfew
    unfold HostId.noCluster
    omega
  have hcompleted : i.hosts.length - (l.hosts.flatMap Fate.blamed).length =
      l.hosts.countP Fate.isOk := by
    have := Fate.countP_isOk_add l.hosts
    omega
  have hadded : l.report.hostsAdded ≤ i.hosts.length := by
    rw [← hlength]
    exact List.countP_le_length
  have hcount {n : Nat} (h : n ≤ i.hosts.length) : (countOf n).toNat = n :=
    UInt32.toNat_ofNat_of_lt (Nat.lt_of_le_of_lt h hfew)
  constructor
  · exact fun f hf => l.id_mem_blamed_host aligned hremoved hfits hf
  · exact fun f hf => l.id_mem_blamed_orphan aligned hremoved hfits hf
  · rw [concludes.hosts, hhosts, hcount (Nat.le_refl _)]
  · rw [concludes.hostsCompleted, hhosts]
    change (countOf (_ - (l.blamed.filter _).length)).toNat = _
    rw [l.filter_blamed aligned hremoved hfits, hcompleted]
    exact hcount (hlength ▸ List.countP_le_length)
  · rw [concludes.hostsAdded, hcount hadded]

end Ledger

/-- Whoever answers the calls of a pass over an accepted resource, once it is told about the
workloads there is a ledger of all that follows. -/
theorem pass_ledger (hnormal : chi.normalize defaults = .ok i) (answer : Answers) :
    ∃ before listed later outcome,
      (pass flavour defaults chi).converse answer [] =
        (before ++ ⟨.list .statefulSet i.ns i.selector, listed⟩ :: later, outcome) ∧
      (∀ x ∈ before, x.isCall = false) ∧
      ∀ existing, listed = .ok existing →
        ∃ (l : Ledger (i.seenAs existing defaults flavour)) (body : List Exchange)
          (reply : Outcome Unit),
          Chronicle chi.reference l.entries body ∧ outcome = .ok l.report ∧
          later = body ++
            [⟨.writeStatus i.ns i.name (finalStatus chi (observed i existing) l.report), reply⟩,
              ⟨.publish chi.reference (outcomeEvent l.report), ()⟩] := by
  obtain ⟨log, hlog, h⟩ := dialogue_converse answer [] (pass flavour defaults chi)
  obtain ⟨stated, listed, later, rfl, -, htold⟩ := dialogue_pass hnormal h
  refine ⟨_, listed, later, _, Prod.ext hlog rfl, ?_, fun existing hlisted => ?_⟩
  · intro x hx
    simp only [List.mem_cons, List.not_mem_nil, or_false] at hx
    rcases hx with rfl | rfl <;> rfl
  · obtain ⟨report, body, closed, houtcome, hconverge, hlater⟩ := htold existing hlisted
    obtain ⟨l, hsaid, rfl⟩ := exists_ledger hconverge
    exact ⟨l, body, closed, hsaid, houtcome, hlater⟩

/-- Whoever answers the calls of a pass over an accepted resource, once it is told about the
workloads it attempts all that there is to do, in its order and whatever comes of it, and its report
and its last status tell what came of each attempt. -/
theorem pass_accounts (hnormal : chi.normalize defaults = .ok i) (answer : Answers) :
    ∃ before listed later outcome,
      (pass flavour defaults chi).converse answer [] =
        (before ++ ⟨.list .statefulSet i.ns i.selector, listed⟩ :: later, outcome) ∧
      (∀ x ∈ before, x.isCall = false) ∧
      ∀ existing, listed = .ok existing →
        ∃ (l : Ledger (i.seenAs existing defaults flavour)) (body : List Exchange)
          (status : InstallationStatus) (reply : Outcome Unit),
          Chronicle chi.reference l.entries body ∧ l.Covers body ∧
          outcome = .ok l.report ∧
          later = body ++ [⟨.writeStatus i.ns i.name status, reply⟩,
            ⟨.publish chi.reference (outcomeEvent l.report), ()⟩] ∧
          (∀ id, id ∈ l.report.failedHosts ↔
            (∃ f ∈ l.hosts, f.isOk = false ∧ f.host.id = id) ∨
              ∃ f ∈ l.orphans, f.isOk = false ∧ f.host.id = id) ∧
          (status.status = .completed ↔ l.report.failures = []) ∧
          Concludes (observed i existing) l.report status ∧
          (i.hosts.length < UInt32.size → l.Reflects status) := by
  obtain ⟨before, listed, later, outcome, hlog, hbefore, htold⟩ := pass_ledger hnormal answer
  refine ⟨before, listed, later, outcome, hlog, hbefore, fun existing hlisted => ?_⟩
  obtain ⟨l, body, reply, hsaid, houtcome, hlater⟩ := htold existing hlisted
  have concludes := concludes_finalStatus chi (observed i existing) l.report
  refine ⟨l, body, _, reply, hsaid, Ledger.covers hsaid, houtcome, hlater,
    fun id => l.mem_failedHosts, ?_, concludes, fun hfew => ?_⟩
  · rw [concludes.phase]
    cases hfailures : l.report.failures <;> simp [PassReport.isSuccess, hfailures]
  · exact l.reflects_finalStatus (InstallationResource.aligned_normalize hnormal).1
      (removed_normalize hnormal) hfew

/-- A workload with a name and labels, and nothing else. -/
def Resource.bare (name : String) (labels : Labels) : Resource .statefulSet :=
  ⟨{ name := some name, labels := some labels }, {}⟩

/-- Tells about the workloads, and refuses everything else. -/
def unwilling (existing : List (Resource .statefulSet)) : Answers := fun _ request =>
  match request with
  | .list .statefulSet .. => .ok existing
  | request => request.refuse (.cancelled "call")

theorem listed_unwilling {α : Type} {program : Program α} {before later : List Exchange}
    {ns : String} {selector : Labels} {listed : Outcome (List (Resource .statefulSet))}
    {outcome : α}
    (h : program.converse (unwilling existing) [] =
      (before ++ ⟨.list .statefulSet ns selector, listed⟩ :: later, outcome)) :
    listed = .ok existing :=
  reply_of_converse ((congrArg Prod.fst h).trans (List.nil_append _).symm)

/-- Where nothing but a look at the workloads is granted, a pass comes to its end all the same. -/
theorem pass_accounts_unwilling :
    ∃ i body status reply, (demo ["main"]).normalize {} = .ok i ∧
      ∃ (l : Ledger (i.seenAs [] {} .server)) (before : List Exchange),
        (pass .server {} (demo ["main"])).converse (unwilling []) [] =
          (before ++ ⟨.list .statefulSet i.ns i.selector, .ok []⟩ :: (body ++
            [⟨.writeStatus i.ns i.name status, reply⟩,
              ⟨.publish (demo ["main"]).reference (outcomeEvent l.report), ()⟩]), .ok l.report) ∧
        Chronicle (demo ["main"]).reference l.entries body := by
  obtain ⟨i, hnormal⟩ := exists_normalize_demo ["main"] rfl
  obtain ⟨before, listed, later, outcome, hsaid, -, htold⟩ :=
    @pass_accounts .server {} (demo ["main"]) i hnormal (unwilling [])
  obtain rfl := listed_unwilling hsaid
  obtain ⟨l, body, status, reply, hchronicle, -, rfl, rfl, -⟩ := htold [] rfl
  exact ⟨i, body, status, reply, hnormal, l, before, hsaid, hchronicle⟩

end ShardOperator
