import ShardOperator.Proofs.Reconcile.Accounting

namespace ShardOperator

open Program Reconcile

def Request.event? : Request → Option Event
  | .publish _ event => some event
  | _ => none

def Request.status? : Request → Option InstallationStatus
  | .writeStatus _ _ status => some status
  | _ => none

/-- The events that were published, in their order. -/
def eventsOf (log : List Exchange) : List Event := log.filterMap (·.request.event?)

/-- The statuses that were written, in their order. -/
def statusesOf (log : List Exchange) : List InstallationStatus := log.filterMap (·.request.status?)

/-- The event is about a pass as a whole. -/
def Event.IsOfPass (event : Event) : Prop :=
  event.reason ∈ [started.reason, completed.reason, (failed "").reason]

theorem Event.OfCall.not_isOfPass {event : Event} (h : event.OfCall) : ¬ event.IsOfPass := by
  cases h with
  | completed verb kind ns name =>
    change word verb ++ "Completed" ∉ _
    cases verb <;> decide
  | failed verb e =>
    change word verb ++ "Failed" ∉ _
    cases verb <;> decide

/-- The first event is that the pass starts, and the last one is how it ended; none between them is
about a pass, and the last one agrees with the last status. -/
structure Framed (log : List Exchange) (between : List Event) (closing : Event)
    (status : InstallationStatus) : Prop where
  events : eventsOf log = .started :: (between ++ [closing])
  between : ∀ event ∈ between, ¬ event.IsOfPass
  last : (statusesOf log).getLast? = some status
  agrees : closing.reason = Event.completed.reason ∧ status.status = .completed ∨
    closing.reason = (Event.failed "").reason ∧ status.status = .aborted

def Bracketed (log : List Exchange) : Prop :=
  ∃ between closing status, Framed log between closing status

/-- The request tells of nothing but single calls. -/
def Request.Routine : Request → Prop
  | .publish _ event => event.OfCall
  | .writeStatus .. => False
  | _ => True

theorem Blueprint.permits_routine (b : Blueprint) (regarding : Regarding) :
    b.Permits regarding Request.Routine where
  common _ := only_reconcileObject trivial trivial (fun _ => trivial) trivial fun _ h => h
  object _ := only_reconcileObject trivial trivial (fun _ => trivial) trivial fun _ h => h
  delete _ _ _ := only_deleteObject trivial fun _ h => h
  list _ := trivial
  dropDnsCache _ := trivial
  forgetHost _ := trivial

section Log

variable {log later : List Exchange}

theorem eventsOf_append : eventsOf (log ++ later) = eventsOf log ++ eventsOf later :=
  List.filterMap_append

theorem statusesOf_append : statusesOf (log ++ later) = statusesOf log ++ statusesOf later :=
  List.filterMap_append

theorem ofCall_of_routine (h : ∀ x ∈ log, x.request.Routine) :
    ∀ event ∈ eventsOf log, event.OfCall := by
  intro event hevent
  obtain ⟨⟨request, reply⟩, hx, hpublished⟩ := List.mem_filterMap.1 hevent
  have hroutine := h _ hx
  cases request with
  | publish regarding published =>
    obtain rfl : published = event := Option.some.inj hpublished
    exact hroutine
  | _ => cases hpublished

theorem statusesOf_of_routine (h : ∀ x ∈ log, x.request.Routine) : statusesOf log = [] := by
  refine List.filterMap_eq_nil_iff.2 fun ⟨request, reply⟩ hx => ?_
  have hroutine := h _ hx
  cases request with
  | writeStatus ns name status => exact hroutine.elim
  | _ => rfl

/-- A log with a single event is not framed by two. -/
theorem not_bracketed_of_events {event : Event} (h : eventsOf log = [event]) :
    ¬ Bracketed log := by
  rintro ⟨between, closing, status, framed⟩
  have hlength := congrArg List.length (h.symm.trans framed.events)
  simp at hlength

end Log

section Pass

variable {flavour : Flavour} {defaults : HostDefaults} {chi : InstallationResource}
  {i : Installation} {log : List Exchange} {outcome : Outcome PassReport}

/-- The last event of a pass says whether it was a success, and so does its last status. -/
theorem agrees_outcomeEvent (chi : InstallationResource) (i : Installation)
    (report : PassReport) :
    (outcomeEvent report).reason = Event.completed.reason ∧
        (finalStatus chi i report).status = .completed ∨
      (outcomeEvent report).reason = (Event.failed "").reason ∧
        (finalStatus chi i report).status = .aborted := by
  rw [(concludes_finalStatus chi i report).phase, outcomeEvent]
  cases report.isSuccess with
  | true => exact .inl ⟨rfl, rfl⟩
  | false => exact .inr ⟨rfl, rfl⟩

theorem framed_of_converge {b : Blueprint} {regarding : Regarding} {report : PassReport}
    {body : List Exchange} (h : Dialogue (converge b regarding) body report)
    (stated closed : Outcome Unit)
    (listed : Outcome (List (Resource .statefulSet))) :
    Framed ([⟨.writeStatus i.ns i.name startedStatus, stated⟩,
        ⟨.publish regarding .started, ()⟩] ++
        ⟨.list .statefulSet i.ns i.selector, listed⟩ :: (body ++
          [⟨.writeStatus i.ns i.name (finalStatus chi b.installation report), closed⟩,
            ⟨.publish regarding (outcomeEvent report), ()⟩]))
      (eventsOf body) (outcomeEvent report) (finalStatus chi b.installation report) := by
  have routine : ∀ x ∈ body, x.request.Routine :=
    (Blueprint.only_converge (b.permits_routine regarding)).of_dialogue h
  refine ⟨?_, ?_, ?_, agrees_outcomeEvent chi b.installation report⟩
  · change Event.started :: eventsOf (body ++ _) = _
    rw [eventsOf_append]
    rfl
  · exact fun event hevent => (ofCall_of_routine routine event hevent).not_isOfPass
  · change (startedStatus :: statusesOf (body ++ _)).getLast? = _
    rw [statusesOf_append, statusesOf_of_routine routine]
    rfl

/-- A pass over an accepted resource is bracketed if it is told about the workloads. If not, it
has started and does not say how it ended, except in its last status. -/
theorem told_of_pass (hnormal : chi.normalize defaults = .ok i)
    (h : Dialogue (pass flavour defaults chi) log outcome) :
    ∃ listed, log.find? Exchange.isCall = some ⟨.list .statefulSet i.ns i.selector, listed⟩ ∧
      (∀ e, listed = .error e → outcome = .error e ∧ eventsOf log = [.started] ∧
        (statusesOf log).getLast? = some (abortedStatus chi "observe failed" e)) ∧
      ∀ existing, listed = .ok existing → outcome.isOk = true ∧ Bracketed log := by
  obtain ⟨stated, listed, later, rfl, hrefused, htold⟩ := dialogue_pass hnormal h
  refine ⟨listed, rfl, fun e hlisted => ?_, fun existing hlisted => ?_⟩
  · obtain ⟨closed, rfl, rfl⟩ := hrefused e hlisted
    exact ⟨rfl, rfl, rfl⟩
  · obtain ⟨report, body, closed, rfl, hconverge, rfl⟩ := htold existing hlisted
    exact ⟨rfl, _, _, _, framed_of_converge hconverge stated closed listed⟩

/-- A resource that is not accepted is told about in one event. -/
theorem told_of_rejection {e : OperatorError} (hnormal : chi.normalize defaults = .error e)
    (h : Dialogue (pass flavour defaults chi) log outcome) :
    outcome = .error e ∧ eventsOf log = [.failed e.message] := by
  unfold Reconcile.pass at h
  rw [hnormal] at h
  obtain ⟨said, _, _, rfl, hreject, h⟩ := dialogue_bind.1 h
  obtain ⟨rfl, rfl⟩ := dialogue_pure.1 h
  refine ⟨rfl, ?_⟩
  rw [List.append_nil]
  unfold rejectPass at hreject
  split at hreject
  · obtain ⟨_, _, _, rfl, hstatus, hnews⟩ := dialogue_bind.1 hreject
    obtain ⟨reply, rfl⟩ := dialogue_writeStatus hstatus
    obtain rfl := dialogue_publish hnews
    rfl
  · obtain rfl := dialogue_publish hreject
    rfl

/-- Whoever answers the calls of a pass, and whatever fails: if the resource is not accepted, the
pass does not start; if it is, the pass is bracketed as soon as it is told about the workloads, and
if it is not told, its start is the only event. -/
theorem pass_bracketed (flavour : Flavour) (defaults : HostDefaults) (chi : InstallationResource)
    (answer : Answers) :
    ∃ log outcome, (pass flavour defaults chi).converse answer [] = (log, outcome) ∧
      (∀ e, chi.normalize defaults = .error e →
        outcome = .error e ∧ eventsOf log = [.failed e.message]) ∧
      ∀ i, chi.normalize defaults = .ok i →
        ∃ listed,
          log.find? Exchange.isCall = some ⟨.list .statefulSet i.ns i.selector, listed⟩ ∧
          (∀ e, listed = .error e → outcome = .error e ∧ eventsOf log = [.started] ∧
            (statusesOf log).getLast? = some (abortedStatus chi "observe failed" e)) ∧
          ∀ existing, listed = .ok existing → outcome.isOk = true ∧ Bracketed log := by
  obtain ⟨log, hlog, h⟩ := dialogue_converse answer [] (pass flavour defaults chi)
  refine ⟨log, _, Prod.ext hlog rfl, fun e hnormal => ?_, fun i hnormal => ?_⟩
  · exact told_of_rejection hnormal h
  · exact told_of_pass hnormal h

end Pass

/-- Refuses everything. -/
def denying : Answers := fun _ request => request.refuse (.cancelled "call")

/-- A pass that is not told about the workloads is over after its start, without an event that it
has failed. -/
theorem pass_unclosed :
    ∃ log outcome, (pass .server {} (demo ["main"])).converse denying [] = (log, outcome) ∧
      eventsOf log = [.started] ∧ ¬ Bracketed log ∧
      ∃ status, (statusesOf log).getLast? = some status ∧ status.status = .aborted := by
  obtain ⟨i, hnormal⟩ := exists_normalize_demo ["main"] rfl
  obtain ⟨log, hlog, h⟩ := dialogue_converse denying [] (pass .server {} (demo ["main"]))
  obtain ⟨listed, hfirst, hrefused, -⟩ := told_of_pass hnormal h
  obtain ⟨-, before, after, hsplit, -⟩ := List.find?_eq_some_iff_append.1 hfirst
  have hlisted : listed = .error (.cancelled "call") :=
    reply_of_converse (hlog.trans (by rw [List.nil_append, hsplit, List.nil_append]))
  obtain ⟨-, hevents, hstatus⟩ := hrefused _ hlisted
  exact ⟨log, _, Prod.ext hlog rfl, hevents, not_bracketed_of_events hevents, _, hstatus, rfl⟩

/-- Where the workloads are told and nothing else is granted, a pass still says how it ended. -/
theorem pass_bracketed_unwilling :
    ∃ log outcome,
      (pass .server {} (demo ["main"])).converse (unwilling []) [] = (log, outcome) ∧
        outcome.isOk = true ∧ Bracketed log := by
  obtain ⟨i, hnormal⟩ := exists_normalize_demo ["main"] rfl
  obtain ⟨log, outcome, hlog, -, haccepted⟩ :=
    pass_bracketed .server {} (demo ["main"]) (unwilling [])
  obtain ⟨listed, hfirst, -, htold⟩ := haccepted i hnormal
  obtain ⟨-, before, after, hsplit, -⟩ := List.find?_eq_some_iff_append.1 hfirst
  rw [hsplit] at hlog
  obtain ⟨hok, bracketed⟩ := htold [] (listed_unwilling hlog)
  exact ⟨log, outcome, hsplit ▸ hlog, hok, bracketed⟩

end ShardOperator
