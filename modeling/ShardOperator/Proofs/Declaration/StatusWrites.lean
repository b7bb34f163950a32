import ShardOperator.Api.Request
import ShardOperator.Proofs.Declaration.Records
import ShardOperator.Proofs.Reconcile.Accounting

namespace ShardOperator

theorem Phase.readsBack (phase : Phase) : Json.ReadsBack ofJson? toJson phase where
  read_write := by cases phase <;> rfl
  write_ne_null := nofun

namespace InstallationStatus

/-- What is left of a stored status when another is written to it: what the new status leaves out
stays. -/
def writtenOver (new old : InstallationStatus) : InstallationStatus :=
  { new with
    observedGeneration := new.observedGeneration.or old.observedGeneration
    errors := if new.errors = [] then old.errors else new.errors
    action := new.action.or old.action
    endpoint := new.endpoint.or old.endpoint
    fqdns := if new.fqdns = [] then old.fqdns else new.fqdns }

/-- Some fields say what a status says. -/
structure ToldBy (status : InstallationStatus) (fields : Fields) : Prop where
  nodup : (fields.map (·.1)).Nodup
  lookup : ∀ key, fields.lookup key = (status.entries.lookup key).join

theorem nodup_entries (status : InstallationStatus) : (status.entries.map (·.1)).Nodup := by
  change InstallationStatus.declared.Nodup
  decide

/-- The fields that a status is written with. -/
def written (status : InstallationStatus) : Fields :=
  status.entries.filterMap fun f => f.2.map (f.1, ·)

theorem toldBy_written (status : InstallationStatus) : status.ToldBy status.written where
  nodup := status.nodup_entries.sublist (Json.keys_filterMap_sublist _)
  lookup := Json.lookup_filterMap status.nodup_entries

variable {status : InstallationStatus} {fields : Fields}

theorem ToldBy.says (h : status.ToldBy fields) : Fields.Says status.entries fields :=
  ⟨h.nodup, h.lookup⟩

/-- A status is read from any fields that say it. -/
theorem ToldBy.ofJson? (h : status.ToldBy fields) : ofJson? (.obj fields) = some status := by
  have f : Fields.Says status.entries fields := h.says
  have hphase : fields.defaulted "status" .pending Phase.ofJson? = some status.status :=
    f.defaulted "status" rfl status.status.readsBack
  have hcount (key : String) (n : UInt32)
      (hentry : status.entries.lookup key = some (some (.ofNat n.toNat))) :
      fields.defaulted key 0 Json.uint32? = some n :=
    f.defaulted key hentry (Json.readsBack_uint32 n)
  have hgeneration : fields.optional "observedGeneration" Json.int64? =
      some status.observedGeneration :=
    f.optional "observedGeneration" rfl fun n _ => Json.readsBack_int64 n
  have hitems (key : String) (items : List String)
      (hentry : status.entries.lookup key = some (unlessNone Json.str items)) :
      fields.defaulted key [] (Json.list? Json.text?) = some items :=
    f.items key hentry fun s _ => Json.readsBack_text s
  unfold InstallationStatus.ofJson?
  rw [Json.read_bind (Json.record?_obj h.nodup), Json.read_bind hphase, Json.read_bind hgeneration,
    Json.read_bind (hcount "clusters" _ rfl), Json.read_bind (hcount "shards" _ rfl),
    Json.read_bind (hcount "hosts" _ rfl), Json.read_bind (hcount "hostsCompleted" _ rfl),
    Json.read_bind (hcount "hostsAdded" _ rfl), Json.read_bind (hcount "hostsRemoved" _ rfl),
    Json.read_bind (hcount "hostsWithErrors" _ rfl), Json.read_bind (hitems "errors" _ rfl),
    Json.read_bind (f.text "action" rfl), Json.read_bind (f.text "endpoint" rfl),
    Json.read_bind (hitems "fqdns" _ rfl)]

theorem plain_entries (status : InstallationStatus) :
    ∀ entry ∈ status.entries, ∀ value ∈ entry.2, value.Plain := by
  have hphase : ∀ value ∈ some status.status.toJson, value.Plain := by
    rintro _ ⟨⟩
    exact ⟨nofun, nofun⟩
  have hnumber (n : Nat) : ∀ value ∈ some (Json.ofNat n), value.Plain := by
    rintro _ ⟨⟩
    exact ⟨nofun, nofun⟩
  have hgeneration : ∀ value ∈ status.observedGeneration.map Json.ofInt64, value.Plain := by
    intro value hvalue
    obtain ⟨n, -, rfl⟩ := Option.map_eq_some_iff.1 hvalue
    exact ⟨nofun, nofun⟩
  have htext (text : Option String) : ∀ value ∈ text.map Json.str, value.Plain := by
    intro value hvalue
    obtain ⟨s, -, rfl⟩ := Option.map_eq_some_iff.1 hvalue
    exact ⟨nofun, nofun⟩
  have hitems (items : List String) : ∀ value ∈ unlessNone Json.str items, value.Plain := by
    unfold unlessNone
    split
    · exact nofun
    · rintro _ ⟨⟩
      exact ⟨nofun, nofun⟩
  unfold entries
  simp only [List.forall_mem_cons]
  exact ⟨hphase, hgeneration, hnumber _, hnumber _, hnumber _, hnumber _, hnumber _, hnumber _,
    hnumber _, hitems _, htext _, htext _, hitems _, nofun⟩

theorem unlessNone_kept (new old : List String) :
    unlessNone Json.str (if new = [] then old else new) =
      (unlessNone Json.str new).or (unlessNone Json.str old) := by
  cases new <;> rfl

/-- A status that is written over another has its entries filled in with those of the other. -/
theorem entries_writtenOver (new old : InstallationStatus) :
    (new.writtenOver old).entries = Json.fillIn new.entries old.entries := by
  unfold entries writtenOver Json.fillIn
  simp only [List.zipWith_cons_cons, List.zipWith_nil_left, Option.some_or, Option.map_or,
    unlessNone_kept]

/-- One write: what the stored fields say afterwards. -/
theorem ToldBy.merge {old : InstallationStatus} (h : old.ToldBy fields)
    (new : InstallationStatus) :
    (new.writtenOver old).ToldBy (Json.mergeFields fields new.written) where
  nodup := Json.nodup_mergeFields h.nodup _
  lookup key := by
    have hnew := new.toldBy_written
    have hplain : ∀ value ∈ new.written.lookup key, value.Plain := by
      intro value hvalue
      rw [hnew.lookup, Option.mem_def, Option.join_eq_some_iff] at hvalue
      exact new.plain_entries (key, some value) (mem_of_lookup hvalue) value rfl
    have hkeys : new.entries.map (·.1) = old.entries.map (·.1) := rfl
    rw [Json.lookup_mergeFields hnew.nodup, Json.patched_plain hplain, hnew.lookup, h.lookup,
      entries_writtenOver, Json.lookup_fillIn hkeys]

theorem latest_ne_nil {errors : List String} (h : errors ≠ []) : latest errors ≠ [] := by
  have hpositive : 0 < errors.length := List.length_pos_iff.2 h
  have hlength : (latest errors).length = min maxErrors errors.length := by
    unfold latest
    rw [List.length_drop]
    omega
  intro hnil
  rw [hnil, List.length_nil] at hlength
  unfold maxErrors at hlength
  omega

/-- A status has a value in each field in which another has one. -/
structure Covers (new old : InstallationStatus) : Prop where
  observedGeneration : new.observedGeneration = none → old.observedGeneration = none
  errors : new.errors = [] → old.errors = []
  action : new.action = none → old.action = none
  endpoint : new.endpoint = none → old.endpoint = none
  fqdns : new.fqdns = [] → old.fqdns = []

theorem writtenOver_eq_iff {new old : InstallationStatus} :
    new.writtenOver old = new ↔ new.Covers old := by
  have hoption {α : Type} (x y : Option α) : x.or y = x ↔ (x = none → y = none) := by
    cases x <;> simp
  have hlist (x y : List String) : (if x = [] then y else x) = x ↔ (x = [] → y = []) := by
    cases x <;> simp
  obtain ⟨⟩ := new
  unfold writtenOver
  simp only [mk.injEq, hoption, hlist, true_and]
  constructor
  · rintro ⟨hgeneration, herrors, haction, hendpoint, hfqdns⟩
    exact ⟨hgeneration, herrors, haction, hendpoint, hfqdns⟩
  · intro h
    exact ⟨h.observedGeneration, h.errors, h.action, h.endpoint, h.fqdns⟩

/-- What a status is after a number of writes. -/
def merged (status : InstallationStatus) (writes : List InstallationStatus) : InstallationStatus :=
  writes.foldl (fun old new => new.writtenOver old) status

end InstallationStatus

namespace Reconcile

open InstallationStatus

/-- A pass leaves its own errors in the stored status, and one without failures those of the pass
before. -/
theorem errors_merged_pass (old : InstallationStatus) (chi : InstallationResource)
    (i : Installation) (report : PassReport) :
    (old.merged [startedStatus, finalStatus chi i report]).errors =
      if report.failures = [] then old.errors
      else latest (report.failures.map OperatorError.message) := by
  have herrors := (concludes_finalStatus chi i report).errors
  have hmerged : (old.merged [startedStatus, finalStatus chi i report]).errors =
      if (finalStatus chi i report).errors = [] then old.errors
      else (finalStatus chi i report).errors := rfl
  rw [hmerged, herrors]
  by_cases hfailures : report.failures = []
  · rw [hfailures]
    rfl
  · have hmessages : report.failures.map OperatorError.message ≠ [] := by
      simpa using hfailures
    rw [if_neg hfailures, if_neg (latest_ne_nil hmessages)]

end Reconcile

namespace ApiRequest

open InstallationStatus

/-- What is stored of an object after a request whose body the server merges into it. -/
def mergedInto (stored : Json) (request : ApiRequest) : Json :=
  request.body.elim stored stored.mergePatch

theorem patchStatus?_body {ns name : String} {status : InstallationStatus} {request : ApiRequest}
    (h : patchStatus? ns name status = some request) :
    request.body = some (.obj [("status", .obj status.written)]) := by
  unfold patchStatus? ofName? ofPath? at h
  split at h
  · cases h
  · obtain ⟨target, -, rfl⟩ := Option.map_eq_some_iff.1 h
    rfl

/-- A stored object has a field that says a status. -/
def Stores (stored : Json) (status : InstallationStatus) : Prop :=
  ∃ fields, stored.field? "status" = some (.obj fields) ∧ status.ToldBy fields

theorem Stores.decode {stored : Json} {status : InstallationStatus} (h : Stores stored status) :
    (stored.field? "status").bind InstallationStatus.ofJson? = some status := by
  obtain ⟨fields, hfield, htold⟩ := h
  rw [hfield, Option.bind_some, htold.ofJson?]

variable {ns name : String} {stored : Json} {old new : InstallationStatus} {request : ApiRequest}

theorem Stores.write (h : Stores stored old) (hrequest : patchStatus? ns name new = some request) :
    Stores (mergedInto stored request) (new.writtenOver old) := by
  obtain ⟨fields, hfield, htold⟩ := h
  refine ⟨_, ?_, htold.merge new⟩
  unfold mergedInto
  rw [patchStatus?_body hrequest, Option.elim_some, Json.field?_mergePatch_single, if_pos rfl,
    hfield]
  rfl

theorem field?_mergedInto (hrequest : patchStatus? ns name new = some request) (stored : Json)
    {key : String} (hkey : key ≠ "status") :
    (mergedInto stored request).field? key = stored.field? key := by
  unfold mergedInto
  rw [patchStatus?_body hrequest, Option.elim_some, Json.field?_mergePatch_single,
    if_neg (Ne.symm hkey)]

theorem Stores.writes {writes : List InstallationStatus} {requests : List ApiRequest}
    (h : Stores stored old) (hrequests : writes.mapM (patchStatus? ns name) = some requests) :
    Stores (requests.foldl mergedInto stored) (old.merged writes) ∧
      ∀ key, key ≠ "status" →
        (requests.foldl mergedInto stored).field? key = stored.field? key := by
  induction writes generalizing stored old requests with
  | nil =>
    obtain rfl := Option.some.inj hrequests
    exact ⟨h, fun _ _ => rfl⟩
  | cons new rest ih =>
    rw [List.mapM_cons] at hrequests
    obtain ⟨request, hrequest, hrequests⟩ := Option.bind_eq_some_iff.1 hrequests
    obtain ⟨later, hlater, hrequests⟩ := Option.bind_eq_some_iff.1 hrequests
    obtain rfl := Option.some.inj hrequests
    obtain ⟨hstores, hkept⟩ := ih (h.write hrequest) hlater
    refine ⟨hstores, fun key hkey => ?_⟩
    exact (hkept key hkey).trans (field?_mergedInto hrequest stored hkey)

/-- A status is not replaced but merged into. After any number of writes, the stored status is the
first one with each of the others written over it in turn, and the rest of the object is as it was.
It is the last status that has been written just if that one has a value wherever the stored one had
one. -/
theorem status_writes_merge {writes : List InstallationStatus} {requests : List ApiRequest}
    (hstored : stored.field? "status" = some old.toJson)
    (hrequests : writes.mapM (patchStatus? ns name) = some requests) :
    let last := requests.foldl mergedInto stored
    (last.field? "status").bind InstallationStatus.ofJson? = some (old.merged writes) ∧
      (∀ key, key ≠ "status" → last.field? key = stored.field? key) ∧
      ∀ earlier new, writes = earlier ++ [new] →
        (old.merged writes = new ↔ new.Covers (old.merged earlier)) := by
  intro last
  have hstores : Stores stored old := ⟨_, hstored, old.toldBy_written⟩
  obtain ⟨hlast, hkept⟩ := hstores.writes hrequests
  refine ⟨hlast.decode, hkept, ?_⟩
  rintro earlier new rfl
  rw [← writtenOver_eq_iff]
  unfold merged
  rw [List.foldl_append]
  rfl

/-- The general result where the new status covers the stored one. -/
theorem status_writes_merge_covered :
    let old : InstallationStatus := { status := .aborted, errors := ["failed"] }
    let new : InstallationStatus := { status := .aborted, errors := ["timed out"] }
    let stored : Json := .obj [("spec", .obj []), ("status", old.toJson)]
    ∃ requests, [new].mapM (patchStatus? "ns" "demo") = some requests ∧
      stored.field? "status" = some old.toJson ∧
      ((requests.foldl mergedInto stored).field? "status").bind InstallationStatus.ofJson? =
        some new := by
  intro old new stored
  obtain ⟨requests, hrequests⟩ :
      ∃ requests, [new].mapM (patchStatus? "ns" "demo") = some requests :=
    Option.isSome_iff_exists.1 (by decide +kernel)
  have hcovers : new.Covers old := ⟨fun _ => rfl, nofun, fun _ => rfl, fun _ => rfl, fun _ => rfl⟩
  have hstored : stored.field? "status" = some old.toJson := rfl
  obtain ⟨hdecoded, -, hreplaced⟩ := status_writes_merge hstored hrequests
  have hnew : old.merged [new] = new := (hreplaced [] new rfl).2 hcovers
  exact ⟨requests, hrequests, hstored, hdecoded.trans (congrArg some hnew)⟩

/-- Errors stay when a status without any is written. -/
theorem status_errors_stay :
    let old : InstallationStatus := {
      status := .aborted, observedGeneration := some 1, errors := ["failed"], fqdns := ["host"] }
    let new : InstallationStatus := { status := .completed }
    let stored : Json := .obj [("status", old.toJson)]
    ∃ request, patchStatus? "ns" "demo" new = some request ∧
      ((mergedInto stored request).field? "status").bind InstallationStatus.ofJson? =
        some { old with status := .completed } := by
  intro old new stored
  obtain ⟨request, hrequest⟩ : ∃ request, patchStatus? "ns" "demo" new = some request :=
    Option.isSome_iff_exists.1 (by decide +kernel)
  have hstores : Stores stored old := ⟨_, rfl, old.toldBy_written⟩
  exact ⟨request, hrequest, (hstores.write hrequest).decode⟩

end ApiRequest

end ShardOperator
