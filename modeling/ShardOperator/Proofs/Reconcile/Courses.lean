import ShardOperator.Api.Call
import ShardOperator.Proofs.Desired.Belonging
import ShardOperator.Proofs.Program.Dialogue

namespace ShardOperator

open Program Simulation

/-- The call writes an object or deletes one. -/
def Call.isWrite (c : Call) : Bool := c.verb = .create || c.verb = .update || c.verb = .delete

/-- The calls that were made to write or delete objects. -/
def writesOf (log : List Exchange) : List Call := (callsOf log).filter Call.isWrite

section Writes

variable {log : List Exchange} {s last : Stores}

theorem writesOf_append (log later : List Exchange) :
    writesOf (log ++ later) = writesOf log ++ writesOf later := by
  rw [writesOf, callsOf_append, List.filter_append]
  rfl

theorem mem_writesOf {x : Exchange} (hx : x ∈ log) {kind : Kind} {ns name : String}
    (htarget : x.request.target? = some (kind, ns, name)) :
    ∃ c ∈ writesOf log, (c.kind, c.ns, c.name) = (kind, ns, name) := by
  obtain ⟨c, hcall, hwrite, hkey⟩ : ∃ c, x.request.call? = some c ∧ c.isWrite = true ∧
      (c.kind, c.ns, c.name) = (kind, ns, name) := by
    obtain ⟨request, reply⟩ := x
    cases request with
    | create | update | delete => exact ⟨_, rfl, rfl, Option.some.inj htarget⟩
    | get | list | writeStatus | publish | dropDnsCache | forgetHost => cases htarget
  exact ⟨c, List.mem_filter.2 ⟨List.mem_filterMap.2 ⟨x, hx, hcall⟩, hwrite⟩, hkey⟩

/-- Calls that take effect leave every object as it is that none of them writes or deletes. -/
theorem Program.Served.find?_of_ne (h : Served Stores.Takes s log last) {kind : Kind}
    {ns name : String} (hne : ∀ c ∈ writesOf log, (c.kind, c.ns, c.name) ≠ (kind, ns, name)) :
    last.find? kind ns name = s.find? kind ns name := by
  have htarget : ∀ x ∈ log, x.request.target? ≠ some (kind, ns, name) := by
    intro x hx hx'
    obtain ⟨c, hc, hkey⟩ := mem_writesOf hx hx'
    exact hne c hc hkey
  clear hne
  induction log generalizing s with
  | nil => rw [h]
  | cons x log ih =>
    obtain ⟨mid, hx, hlog⟩ := h
    rw [ih hlog fun y hy => htarget y (List.mem_cons_of_mem _ hy)]
    exact Stores.Takes.find?_of_ne hx (htarget x (List.mem_cons_self ..))

theorem Program.Served.eq_of_writesOf_eq_nil (h : Served Stores.Takes s log last)
    (hwrites : writesOf log = []) : last = s := by
  have htarget : ∀ x ∈ log, x.request.target? = none := by
    intro x hx
    refine Option.eq_none_iff_forall_ne_some.2 fun key hkey => ?_
    obtain ⟨c, hc, -⟩ := mem_writesOf hx hkey
    rw [hwrites] at hc
    exact List.not_mem_nil hc
  clear hwrites
  induction log generalizing s with
  | nil => exact h
  | cons x log ih =>
    obtain ⟨mid, hx, hlog⟩ := h
    rw [ih hlog fun y hy => htarget y (List.mem_cons_of_mem _ hy)]
    exact Stores.Takes.eq_of_target?_eq_none hx (htarget x (List.mem_cons_self ..))

end Writes

/-- A call that takes longer than it may, or than until it is called off, fails as cancelled. -/
theorem ApiCall.isCancelled_of_late {α : Type} {c : ApiCall α} {limit : Duration}
    {callOff : CallOff} {reply : ApiReply} (hrequest : c.request.isSome)
    (hlate : callOff.isBefore reply.delayMillis = true ∨ limit.millis < reply.delayMillis) :
    ∃ e, (c.performWithin limit callOff reply).1 = .error e ∧ e.isCancelled = true := by
  obtain ⟨request, hrequest⟩ := Option.isSome_iff_exists.1 hrequest
  cases callOff with
  | beforehand => exact ⟨_, rfl, rfl⟩
  | never =>
    have hlimit : limit.millis < reply.delayMillis := hlate.resolve_left nofun
    simp only [performWithin, hrequest, CallOff.isBefore, Bool.false_and, hlimit]
    split <;> exact ⟨_, rfl, rfl⟩
  | after time =>
    simp only [CallOff.isBefore, decide_eq_true_eq] at hlate
    simp only [performWithin, hrequest, CallOff.isBefore, Bool.and_eq_true, decide_eq_true_eq]
    split
    · exact ⟨_, rfl, rfl⟩
    · split
      · exact ⟨_, rfl, rfl⟩
      · have hlimit : limit.millis < reply.delayMillis := by omega
        exact ⟨_, by rw [if_pos hlimit], rfl⟩

namespace Reconcile

variable {kind : Kind}

/-- The desired object, or one of its version, is in its place. -/
def Stands (desired : Resource kind) (s : Stores) : Prop :=
  ∃ object, s.find? kind desired.ns desired.name = some object ∧
    object.version? = desired.version?

theorem stands_put (object : Resource kind) (s : Stores) : Stands object (s.put object) :=
  ⟨_, s.find?_put_self object, rfl⟩

section Courses

variable (regarding : Regarding) (desired : Resource kind)

/-- An event is told. -/
def told (event : Event) : Exchange := ⟨.publish regarding event, ()⟩

/-- The object is looked up. -/
def lookUp (reply : Outcome (Resource kind)) : Exchange :=
  ⟨.get kind desired.ns desired.name, reply⟩

def deletion (reply : Outcome Unit) : Exchange := ⟨.delete kind desired.ns desired.name, reply⟩

/-- How the creation of an object may go. -/
inductive Creation (plan : Plan) : List Exchange → Outcome ObjectOutcome → Prop where
  | created :
      Creation plan
        [⟨.create desired, .ok ()⟩,
          told regarding (.callCompleted .create kind desired.ns desired.name)]
        (.ok ⟨kind, desired.name, plan⟩)
  | failed (e : OperatorError) :
      Creation plan [⟨.create desired, .error e⟩, told regarding (.callFailed .create e)] (.error e)

/-- What keeps an object from being replaced in place: it cannot be migrated, or the update fails
and was not called off. -/
inductive Obstacle (current : Resource kind) : List Exchange → OperatorError → Prop where
  | refused {e : OperatorError} (h : current.migrate desired = .error e) : Obstacle current [] e
  | failed {migrated : Resource kind} {e : OperatorError}
      (h : current.migrate desired = .ok migrated) (hcancelled : e.isCancelled = false) :
      Obstacle current [⟨.update migrated, .error e⟩] e

/-- How an attempt to bring an object to its desired state may go. -/
inductive Course : List Exchange → Outcome ObjectOutcome → Prop where
  | skipped {current : Resource kind} (hcurrent : isCurrent current desired = true) :
      Course [lookUp desired (.ok current)] (.ok ⟨kind, desired.name, .skip⟩)
  | updated {current migrated : Resource kind}
      (hmigrated : current.migrate desired = .ok migrated) :
      Course
        [lookUp desired (.ok current), ⟨.update migrated, .ok ()⟩,
          told regarding (.callCompleted .update kind desired.ns desired.name)]
        (.ok ⟨kind, desired.name, .update⟩)
  | cancelled {current migrated : Resource kind} {e : OperatorError}
      (hmigrated : current.migrate desired = .ok migrated) (hcancelled : e.isCancelled = true) :
      Course [lookUp desired (.ok current), ⟨.update migrated, .error e⟩] (.error e)
  | recreated {current : Resource kind} {tried created : List Exchange} {e : OperatorError}
      {outcome : Outcome ObjectOutcome} (obstacle : Obstacle desired current tried e)
      (reply : Outcome Unit) (creation : Creation regarding desired .recreate created outcome) :
      Course
        (lookUp desired (.ok current) ::
          (tried ++ told regarding (.callFailed .update e) :: deletion desired reply :: created))
        outcome
  | missing {created : List Exchange} {e : OperatorError} {outcome : Outcome ObjectOutcome}
      (hmissing : e.isNotFound = true)
      (creation : Creation regarding desired .create created outcome) :
      Course (lookUp desired (.error e) :: created) outcome
  | unread {e : OperatorError} {said : List Exchange} (hfound : e.isNotFound = false)
      (aside : callsOf said = []) :
      Course (lookUp desired (.error e) :: said) (.error e)

end Courses

section Inversion

variable {regarding : Regarding} {desired : Resource kind} {log : List Exchange}
  {outcome : Outcome ObjectOutcome}

theorem dialogue_publish {event : Event} {value : Unit}
    (h : Dialogue (publish regarding event) log value) : log = [told regarding event] :=
  dialogue_call.1 h

theorem creation_of_dialogue {plan : Plan}
    (h : Dialogue (createObject regarding desired plan) log outcome) :
    Creation regarding desired plan log outcome := by
  obtain ⟨_, reply, rest, rfl, hcall, onward⟩ := dialogue_bind.1 h
  obtain rfl := dialogue_call.1 hcall
  cases reply with
  | ok done =>
    obtain ⟨_, _, last, rfl, hpublish, hdone⟩ := dialogue_bind.1 onward
    obtain ⟨rfl, rfl⟩ := dialogue_pure.1 hdone
    obtain rfl := dialogue_publish hpublish
    exact .created
  | error e =>
    obtain ⟨_, _, last, rfl, hpublish, hdone⟩ := dialogue_bind.1 onward
    obtain ⟨rfl, rfl⟩ := dialogue_pure.1 hdone
    obtain rfl := dialogue_publish hpublish
    exact .failed e

/-- An object that is in the way is deleted, whatever comes of it, and then the new one is
created. -/
theorem dialogue_recreateObject {e : OperatorError}
    (h : Dialogue (recreateObject regarding desired e) log outcome) :
    ∃ reply created, Creation regarding desired .recreate created outcome ∧
      log = told regarding (.callFailed .update e) :: deletion desired reply :: created := by
  obtain ⟨_, _, _, rfl, hpublish, onward⟩ := dialogue_bind.1 h
  obtain ⟨_, reply, created, rfl, hcall, hcreate⟩ := dialogue_bind.1 onward
  obtain rfl := dialogue_publish hpublish
  obtain rfl := dialogue_call.1 hcall
  exact ⟨reply, created, creation_of_dialogue hcreate, rfl⟩

theorem course_of_replaceObject {current : Resource kind}
    (h : Dialogue (replaceObject regarding current desired) log outcome) :
    Course regarding desired (lookUp desired (.ok current) :: log) outcome := by
  unfold replaceObject at h
  split at h
  · next e hrefused =>
    obtain ⟨reply, created, hcreated, rfl⟩ := dialogue_recreateObject h
    exact .recreated (.refused hrefused) reply hcreated
  · next migrated hmigrated =>
    obtain ⟨_, reply, rest, rfl, hcall, onward⟩ := dialogue_bind.1 h
    obtain rfl := dialogue_call.1 hcall
    cases reply with
    | ok done =>
      obtain ⟨_, _, last, rfl, hpublish, hdone⟩ := dialogue_bind.1 onward
      obtain ⟨rfl, rfl⟩ := dialogue_pure.1 hdone
      obtain rfl := dialogue_publish hpublish
      exact .updated hmigrated
    | error e =>
      change Dialogue (if e.isCancelled then _ else _) _ _ at onward
      split at onward
      · next hcancelled =>
        obtain ⟨rfl, rfl⟩ := dialogue_pure.1 onward
        exact .cancelled hmigrated hcancelled
      · next hcancelled =>
        obtain ⟨reply, created, hcreated, rfl⟩ := dialogue_recreateObject onward
        exact .recreated (.failed hmigrated (Bool.eq_false_iff.2 hcancelled)) reply hcreated

/-- Every attempt goes one of these ways. -/
theorem course_of_dialogue (h : Dialogue (reconcileObject regarding desired) log outcome) :
    Course regarding desired log outcome := by
  obtain ⟨_, reply, rest, rfl, hcall, onward⟩ := dialogue_bind.1 h
  obtain rfl := dialogue_call.1 hcall
  cases reply with
  | ok current =>
    change Dialogue (if isCurrent current desired then _ else _) _ _ at onward
    split at onward
    · next hcurrent =>
      obtain ⟨rfl, rfl⟩ := dialogue_pure.1 onward
      exact .skipped hcurrent
    · exact course_of_replaceObject onward
  | error e =>
    change Dialogue (if e.isNotFound then _ else _) _ _ at onward
    split at onward
    · next hmissing => exact .missing hmissing (creation_of_dialogue onward)
    · next hmissing =>
      have hfound : e.isNotFound = false := Bool.eq_false_iff.2 hmissing
      split at onward
      · obtain ⟨rfl, rfl⟩ := dialogue_pure.1 onward
        exact .unread hfound rfl
      · obtain ⟨_, _, last, rfl, hpublish, hdone⟩ := dialogue_bind.1 onward
        obtain ⟨rfl, rfl⟩ := dialogue_pure.1 hdone
        obtain rfl := dialogue_publish hpublish
        exact .unread hfound rfl

end Inversion

section Effects

variable {regarding : Regarding} {desired : Resource kind} {log : List Exchange}
  {outcome : Outcome ObjectOutcome} {s last : Stores}

/-- The calls that an attempt makes at most, in their order. -/
def attemptWrites (desired : Resource kind) : List Call :=
  [⟨.update, kind, desired.ns, desired.name⟩, ⟨.delete, kind, desired.ns, desired.name⟩,
    ⟨.create, kind, desired.ns, desired.name⟩]

theorem writesOf_update {migrated current : Resource kind}
    (h : current.migrate desired = .ok migrated) (reply : Outcome Unit) :
    writesOf [⟨.update migrated, reply⟩] = [⟨.update, kind, desired.ns, desired.name⟩] := by
  rw [← Resource.ns_migrate h, ← Resource.name_migrate h]
  rfl

theorem Creation.writes {plan : Plan} (h : Creation regarding desired plan log outcome) :
    writesOf log = [⟨.create, kind, desired.ns, desired.name⟩] := by
  cases h <;> rfl

theorem Obstacle.writes {current : Resource kind} {e : OperatorError}
    (h : Obstacle desired current log e) :
    (writesOf log).Sublist [⟨.update, kind, desired.ns, desired.name⟩] := by
  cases h with
  | refused _ => exact List.nil_sublist _
  | failed h _ =>
    have hwrites := writesOf_update h (.error e)
    exact hwrites ▸ List.Sublist.refl _

/-- An attempt updates, deletes and creates at most once each, and nothing but its object. -/
theorem Course.writes (h : Course regarding desired log outcome) :
    (writesOf log).Sublist (attemptWrites desired) := by
  cases h with
  | skipped _ => exact List.nil_sublist _
  | @updated _ migrated h =>
    have hwrites : writesOf [⟨.update migrated, .ok ()⟩] = _ := writesOf_update h (.ok ())
    exact hwrites.symm ▸ (List.nil_sublist _).cons_cons _
  | @cancelled _ migrated e h _ =>
    have hwrites : writesOf [⟨.update migrated, .error e⟩] = _ := writesOf_update h (.error e)
    exact hwrites.symm ▸ (List.nil_sublist _).cons_cons _
  | @recreated current tried created e _ obstacle reply creation =>
    have hwrites : writesOf (lookUp desired (.ok current) ::
          (tried ++ told regarding (.callFailed .update e) :: deletion desired reply :: created)) =
        writesOf tried ++ ⟨.delete, kind, desired.ns, desired.name⟩ :: writesOf created :=
      writesOf_append tried _
    rw [hwrites, creation.writes]
    exact obstacle.writes.append (.refl _)
  | missing _ creation =>
    have hwrites := creation.writes
    exact hwrites.symm ▸ (((List.Sublist.refl _).cons _).cons _)
  | @unread _ said _ aside =>
    have hwrites : writesOf said = [] := by
      rw [writesOf, aside]
      rfl
    exact hwrites.symm ▸ List.nil_sublist _

theorem Course.key_of_mem_writesOf (h : Course regarding desired log outcome) {c : Call}
    (hc : c ∈ writesOf log) : (c.kind, c.ns, c.name) = (kind, desired.ns, desired.name) := by
  have hmem := h.writes.subset hc
  simp only [attemptWrites, List.mem_cons, List.not_mem_nil, or_false] at hmem
  rcases hmem with rfl | rfl | rfl <;> rfl

/-- A creation that succeeds puts the desired object in its place. -/
theorem Creation.stands {plan : Plan} (h : Creation regarding desired plan log outcome)
    (served : Served Stores.Takes s log last) (hok : outcome.isOk = true) :
    Stands desired last := by
  cases h with
  | created =>
    obtain ⟨_, rfl, _, rfl, rfl⟩ := served
    exact stands_put desired s
  | failed e => cases hok

/-- An attempt that succeeds has left an object of the desired version in its place. -/
theorem Course.stands (h : Course regarding desired log outcome)
    (served : Served Stores.Takes s log last) (hversion : desired.version?.isSome)
    (hok : outcome.isOk = true) : Stands desired last := by
  cases h with
  | @skipped current hcurrent =>
    obtain ⟨_, ⟨hfind, rfl⟩, rfl⟩ := served
    unfold isCurrent at hcurrent
    simp only [Bool.and_eq_true, decide_eq_true_eq] at hcurrent
    exact ⟨current, hfind, hcurrent.2⟩
  | @updated _ migrated h =>
    obtain ⟨_, -, _, rfl, _, rfl, rfl⟩ := served
    obtain ⟨object, hfind, hobject⟩ := stands_put migrated _
    rw [Resource.ns_migrate h, Resource.name_migrate h] at hfind
    exact ⟨object, hfind, hobject.trans (Resource.version?_migrate h hversion)⟩
  | cancelled _ _ => cases hok
  | recreated _ _ creation =>
    obtain ⟨_, -, served⟩ := served
    obtain ⟨_, -, _, -, _, -, served⟩ := served_append.1 served
    exact creation.stands served hok
  | missing _ creation =>
    obtain ⟨_, -, served⟩ := served
    exact creation.stands served hok
  | unread _ _ => cases hok

/-- Something is deleted only after it was read, and where it cannot be migrated or its update has
failed. -/
theorem Course.obstacle (h : Course regarding desired log outcome)
    (hdelete : ⟨.delete, kind, desired.ns, desired.name⟩ ∈ writesOf log) :
    ∃ current tried rest e reply, log = lookUp desired (.ok current) :: rest ∧
      Obstacle desired current tried e ∧ (tried ++ [deletion desired reply]).Sublist rest := by
  cases h with
  | skipped _ => cases hdelete
  | @updated _ migrated h =>
    have hwrites : writesOf [⟨.update migrated, .ok ()⟩] = _ := writesOf_update h (.ok ())
    cases List.mem_singleton.1 (hwrites ▸ hdelete)
  | @cancelled _ migrated e h _ =>
    have hwrites : writesOf [⟨.update migrated, .error e⟩] = _ := writesOf_update h (.error e)
    cases List.mem_singleton.1 (hwrites ▸ hdelete)
  | @recreated current tried created e _ obstacle reply creation =>
    refine ⟨current, tried, _, e, reply, rfl, obstacle, ?_⟩
    exact (List.Sublist.refl tried).append (((List.nil_sublist created).cons_cons _).cons _)
  | missing _ creation =>
    have hwrites := creation.writes
    cases List.mem_singleton.1 (hwrites ▸ hdelete)
  | @unread _ said _ aside =>
    have hwrites : writesOf said = [] := by
      rw [writesOf, aside]
      rfl
    cases (hwrites ▸ hdelete : _ ∈ ([] : List Call))

/-- An attempt skips what is current, and writes nothing then. -/
theorem Course.spares_of_skip {report : ObjectOutcome}
    (h : Course regarding desired log (.ok report)) (served : Served Stores.Takes s log last)
    (hskip : report.plan = .skip) : writesOf log = [] ∧ last = s := by
  suffices hwrites : writesOf log = [] from ⟨hwrites, served.eq_of_writesOf_eq_nil hwrites⟩
  cases h with
  | skipped _ => rfl
  | updated _ => cases hskip
  | recreated _ _ creation => cases creation; cases hskip
  | missing _ creation => cases creation; cases hskip

/-- An update that is called off ends the attempt, and nothing has been changed. -/
theorem Course.spares_of_cancelled (h : Course regarding desired log outcome)
    (served : Served Stores.Takes s log last) {migrated : Resource kind} {e : OperatorError}
    (hupdate : ⟨.update migrated, .error e⟩ ∈ log) (hcancelled : e.isCancelled = true) :
    writesOf log = [⟨.update, kind, desired.ns, desired.name⟩] ∧ last = s ∧
      outcome = .error e := by
  cases h with
  | skipped _ => cases List.mem_singleton.1 hupdate
  | updated _ => simp [lookUp, told] at hupdate
  | @cancelled current migrated' e' hmigrated _ =>
    obtain ⟨rfl, rfl⟩ : migrated = migrated' ∧ e = e' := by simpa [lookUp] using hupdate
    obtain ⟨_, ⟨-, rfl⟩, _, rfl, rfl⟩ := served
    exact ⟨writesOf_update hmigrated (.error e), rfl, rfl⟩
  | @recreated _ tried created e' _ obstacle reply creation =>
    have htried : ⟨.update migrated, .error e⟩ ∈ tried := by
      cases creation <;> simpa [lookUp, told, deletion] using hupdate
    cases obstacle with
    | refused _ => cases htried
    | failed _ hactive =>
      obtain ⟨-, rfl⟩ : migrated = _ ∧ e = e' := by simpa using htried
      rw [hactive] at hcancelled
      cases hcancelled
  | missing _ creation => cases creation <;> simp [lookUp, told] at hupdate
  | @unread _ said _ aside =>
    rcases List.mem_cons.1 hupdate with heq | hmem
    · cases heq
    · have hcall : ⟨.update, kind, migrated.ns, migrated.name⟩ ∈ callsOf said :=
        List.mem_filterMap.2 ⟨_, hmem, rfl⟩
      rw [aside] at hcall
      cases hcall

/-- A look that fails, and not for want of the object, ends the attempt. -/
theorem Course.spares_of_unread (h : Course regarding desired log outcome)
    (served : Served Stores.Takes s log last) {e : OperatorError}
    (hlook : lookUp desired (.error e) ∈ log) (hfound : e.isNotFound = false) :
    writesOf log = [] ∧ last = s ∧ outcome = .error e := by
  suffices hend : writesOf log = [] ∧ outcome = .error e from
    ⟨hend.1, served.eq_of_writesOf_eq_nil hend.1, hend.2⟩
  clear served
  cases h with
  | skipped _ => cases List.mem_singleton.1 hlook
  | updated _ => simp [lookUp, told] at hlook
  | cancelled _ _ => simp [lookUp] at hlook
  | recreated obstacle _ creation =>
    cases obstacle <;> cases creation <;> simp [lookUp, told, deletion] at hlook
  | @missing _ e' _ hmissing creation =>
    obtain rfl : e = e' := by cases creation <;> simpa [lookUp, told] using hlook
    rw [hmissing] at hfound
    cases hfound
  | @unread e' said _ aside =>
    rcases List.mem_cons.1 hlook with heq | hmem
    · obtain rfl : e = e' := by simpa [lookUp] using heq
      exact ⟨by rw [writesOf, callsOf, List.filterMap_cons, ← callsOf, aside]; rfl, rfl⟩
    · have hcall : ⟨.get, kind, desired.ns, desired.name⟩ ∈ callsOf said :=
        List.mem_filterMap.2 ⟨_, hmem, rfl⟩
      rw [aside] at hcall
      cases hcall

/-- What holds of an attempt, whatever comes of its calls. -/
structure Spares (desired : Resource kind) (s : Stores) (log : List Exchange)
    (outcome : Outcome ObjectOutcome) (last : Stores) : Prop where
  /-- A success leaves an object of the desired version. -/
  stands : outcome.isOk = true → Stands desired last
  /-- Where the object is skipped, nothing is written. -/
  skips : ∀ report, outcome = .ok report → report.plan = .skip → writesOf log = [] ∧ last = s
  /-- One update, one deletion and one creation at most, in this order. -/
  writes : (writesOf log).Sublist (attemptWrites desired)
  /-- No other object changes. -/
  frame : ∀ other ns name, (kind, desired.ns, desired.name) ≠ (other, ns, name) →
    last.find? other ns name = s.find? other ns name
  /-- What is deleted was read, and then it could not be migrated or its update failed, other than
  by being called off. -/
  deletes : ⟨.delete, kind, desired.ns, desired.name⟩ ∈ writesOf log →
    ∃ current tried rest e reply, s.find? kind desired.ns desired.name = some current ∧
      log = lookUp desired (.ok current) :: rest ∧ Obstacle desired current tried e ∧
      (tried ++ [deletion desired reply]).Sublist rest
  /-- An update that is called off is the end. -/
  cancelled : ∀ (migrated : Resource kind) (e : OperatorError),
    ⟨.update migrated, .error e⟩ ∈ log → e.isCancelled = true →
      writesOf log = [⟨.update, kind, desired.ns, desired.name⟩] ∧ last = s ∧ outcome = .error e
  /-- So is one that takes longer than it may, or than until it is called off. -/
  late : ∀ (migrated : Resource kind) (limit : Duration) (callOff : CallOff) (reply : ApiReply),
    (ApiCall.update migrated).request.isSome →
    (callOff.isBefore reply.delayMillis = true ∨ limit.millis < reply.delayMillis) →
    ⟨.update migrated, ((ApiCall.update migrated).performWithin limit callOff reply).1.map
      fun _ => ()⟩ ∈ log →
    writesOf log = [⟨.update, kind, desired.ns, desired.name⟩] ∧ last = s
  /-- Where the object cannot be looked at, nothing is written. -/
  unread : ∀ e, lookUp desired (.error e) ∈ log → e.isNotFound = false →
    writesOf log = [] ∧ last = s ∧ outcome = .error e

/-- An attempt reaches the desired version or spares what there is, for any results of its calls
of which the successful ones have taken effect. -/
theorem attempt_reaches_or_spares (hversion : desired.version?.isSome)
    (hsaid : Dialogue (reconcileObject regarding desired) log outcome)
    (served : Served Stores.Takes s log last) : Spares desired s log outcome last := by
  have course := course_of_dialogue hsaid
  exact {
    stands := course.stands served hversion
    skips := by
      rintro report rfl hskip
      exact course.spares_of_skip served hskip
    writes := course.writes
    frame := by
      intro other ns name hne
      refine served.find?_of_ne fun c hc => ?_
      rw [course.key_of_mem_writesOf hc]
      exact hne
    deletes := by
      intro hdelete
      obtain ⟨current, tried, rest, e, reply, rfl, obstacle, hsub⟩ := course.obstacle hdelete
      obtain ⟨_, ⟨hfind, -⟩, -⟩ := served
      exact ⟨current, tried, rest, e, reply, hfind, rfl, obstacle, hsub⟩
    cancelled := fun _ _ hupdate => course.spares_of_cancelled served hupdate
    late := by
      intro migrated limit callOff reply hrequest hlate hupdate
      obtain ⟨e, hfailed, hcancelled⟩ := ApiCall.isCancelled_of_late hrequest hlate
      rw [hfailed] at hupdate
      obtain ⟨hwrites, hlast, -⟩ := course.spares_of_cancelled served hupdate hcancelled
      exact ⟨hwrites, hlast⟩
    unread := fun _ hlook => course.spares_of_unread served hlook }

/-- A Service of a type and of a version. -/
def typed (serviceType version : String) : Resource .service :=
  ⟨{ name := some "web", annotations := some (SortedMap.empty.insert versionAnnotation version) },
    { spec := some { serviceType := some serviceType } }⟩

/-- A Service of another type is read, deleted and created anew. -/
theorem attempt_spares_typed :
    ∃ log last, writesOf log = [⟨.delete, .service, "", "web"⟩, ⟨.create, .service, "", "web"⟩] ∧
      Spares (typed "LoadBalancer" "2") (Stores.put {} (typed "ClusterIP" "1")) log
        (.ok ⟨.service, "web", .recreate⟩) last := by
  let current := typed "ClusterIP" "1"
  let desired := typed "LoadBalancer" "2"
  let refusal : OperatorError := .immutableField "Service" "" "web" "type ClusterIP -> LoadBalancer"
  have hcreate : Dialogue (createObject default desired .recreate)
      [⟨.create desired, .ok ()⟩, told default (.callCompleted .create .service "" "web")]
      (.ok ⟨.service, "web", .recreate⟩) :=
    dialogue_ask.2 ⟨.ok (), _, rfl, dialogue_ask.2 ⟨(), _, rfl, .done _⟩⟩
  have hsaid : Dialogue (reconcileObject default desired)
      [lookUp desired (.ok (current.numbered 1)), told default (.callFailed .update refusal),
        deletion desired (.ok ()), ⟨.create desired, .ok ()⟩,
        told default (.callCompleted .create .service "" "web")]
      (.ok ⟨.service, "web", .recreate⟩) :=
    dialogue_ask.2 ⟨.ok (current.numbered 1), _, rfl, dialogue_ask.2 ⟨(), _, rfl,
      dialogue_ask.2 ⟨.ok (), _, rfl, hcreate⟩⟩⟩
  let last := ((Stores.put {} current).erase .service "" "web").put desired
  refine ⟨_, last, rfl, attempt_reaches_or_spares rfl hsaid ?_⟩
  exact ⟨_, ⟨Stores.find?_put_self {} current, rfl⟩, _, rfl, _, rfl, _, rfl, _, rfl, rfl⟩

end Effects

end Reconcile

end ShardOperator
