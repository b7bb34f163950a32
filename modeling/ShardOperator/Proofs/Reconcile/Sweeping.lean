import ShardOperator.Proofs.Desired.Drafts
import ShardOperator.Proofs.Reconcile.Removal

namespace ShardOperator

open Program Reconcile Simulation

namespace Blueprint

/-- The stored object has the labels and the owner of the installation, and its name is that of
nothing that is built for the installation or cannot be built. -/
structure Stale (b : Blueprint) (s : Stores) {kind : Kind} (object : Resource kind) : Prop where
  stored : ∃ name, s.find? kind b.installation.ns name = some object
  carries : object.Carries b.installation.selector
  owned : ∀ uid, b.installation.uid = some uid →
    ∃ owner ∈ object.metadata.ownerReferences.getD [], owner.uid = uid
  unclaimed : ¬ b.Claims kind object.anyName

/-- The objects of a kind are listed. -/
def listing (b : Blueprint) (kind : Kind) (reply : Outcome (List (Resource kind))) : Exchange :=
  ⟨.list kind b.installation.ns b.installation.selector, reply⟩

/-- The call that sweeps an object away. -/
def removal (b : Blueprint) {kind : Kind} (object : Resource kind) : Call :=
  ⟨.delete, kind, b.installation.ns, object.anyName⟩

/-- What is swept away of the kinds: nothing where the objects cannot be listed, and the stale
objects where they can. -/
structure Sweeps (b : Blueprint) (kinds : List Kind) (s : Stores) (log : List Exchange) :
    Prop where
  within : ∀ c ∈ callsOf log, c.kind ∈ kinds
  listed : ∀ kind ∈ kinds, ∃ reply, b.listing kind reply ∈ log
  unlisted : ∀ kind e, b.listing kind (.error e) ∈ log → ∀ c ∈ writesOf log, c.kind ≠ kind
  removed : ∀ kind existing, b.listing kind (.ok existing) ∈ log → ∀ c : Call,
    c ∈ writesOf log ∧ c.kind = kind ↔
      ∃ object : Resource kind, b.Stale s object ∧ c = b.removal object

variable {b : Blueprint} {s : Stores} {kind : Kind}

theorem isOwner_iff {object : Resource kind} : b.isOwner object = true ↔
    ∀ uid, b.installation.uid = some uid →
      ∃ owner ∈ object.metadata.ownerReferences.getD [], owner.uid = uid := by
  unfold isOwner
  cases b.installation.uid with
  | none => simp
  | some uid => simp

theorem mem_staleObjects_iff {existing : List (Resource kind)} {object : Resource kind}
    (hlists : s.Lists kind b.installation.ns b.installation.selector existing) :
    object ∈ b.staleObjects existing ↔ b.Stale s object := by
  simp only [staleObjects, List.mem_filter, Bool.and_eq_true, Bool.not_eq_true',
    List.contains_eq_mem, decide_eq_false_iff_not, ← claims_iff, isOwner_iff, hlists object]
  constructor
  · rintro ⟨⟨hstored, hcarries⟩, hunclaimed, howned⟩
    exact ⟨hstored, hcarries, howned, hunclaimed⟩
  · rintro ⟨hstored, hcarries, howned, hunclaimed⟩
    exact ⟨⟨hstored, hcarries⟩, hunclaimed, howned⟩

variable {regarding : Regarding} {report report' : PassReport} {log : List Exchange}

/-- The objects of a kind are listed first, and then the stale ones are swept away. -/
theorem calls_sweepKind (h : Dialogue (sweepKind b regarding report kind) log report') :
    ∃ reply said, log = b.listing kind reply :: said ∧
      callsOf said = match reply with
        | .ok existing => (b.staleObjects existing).map b.removal
        | .error _ => [] := by
  obtain ⟨_, reply, said, rfl, hlist, onward⟩ := dialogue_bind.1 h
  obtain rfl := dialogue_call.1 hlist
  refine ⟨reply, said, rfl, ?_⟩
  cases reply with
  | error e =>
    obtain ⟨rfl, -⟩ := dialogue_pure.1 onward
    rfl
  | ok existing =>
    obtain ⟨entries, hentries, hsaid, -⟩ := dialogue_sweepObjects onward
    have hcalls : callsOf said = entries.flatMap (·.duty.deletions) := by
      refine hsaid.calls_eq fun ⟨duty, result⟩ hentry part hpart => ?_
      have hduty : duty ∈ entries.map Entry.duty := List.mem_map_of_mem hentry
      rw [hentries] at hduty
      obtain ⟨object, -, rfl⟩ := List.mem_map.1 hduty
      exact calls_delete hpart
    rw [hcalls, ← List.flatMap_map, hentries, List.flatMap_map]
    exact List.map_eq_flatMap.symm

theorem sweeps_sweepKind {last : Stores}
    (h : Dialogue (sweepKind b regarding report kind) log report')
    (served : Served Stores.Takes s log last) : b.Sweeps [kind] s log := by
  obtain ⟨reply, said, rfl, hsaid⟩ := calls_sweepKind h
  have hdeletes : ∀ c ∈ callsOf said, c.verb = .delete ∧ c.kind = kind := by
    rw [hsaid]
    cases reply with
    | error e => exact nofun
    | ok existing =>
      intro c hc
      obtain ⟨object, -, rfl⟩ := List.mem_map.1 hc
      exact ⟨rfl, rfl⟩
  have hwrites : writesOf (b.listing kind reply :: said) = callsOf said := by
    change (callsOf said).filter Call.isWrite = callsOf said
    exact List.filter_eq_self.2 fun c hc => by simp [Call.isWrite, (hdeletes c hc).1]
  have honce {kind' : Kind} {reply' : Outcome (List (Resource kind'))}
      (hmem : b.listing kind' reply' ∈ b.listing kind reply :: said) :
      b.listing kind' reply' = b.listing kind reply := by
    refine (List.mem_cons.1 hmem).resolve_right fun hmem => ?_
    cases (hdeletes _ (List.mem_filterMap.2 ⟨_, hmem, rfl⟩)).1
  constructor
  · intro c hc
    rcases List.mem_cons.1 hc with rfl | hc
    · exact List.mem_singleton_self kind
    · exact List.mem_singleton.2 (hdeletes c hc).2
  · intro kind' hkind
    obtain rfl := List.mem_singleton.1 hkind
    exact ⟨reply, List.mem_cons_self ..⟩
  · intro kind' e hmem c hc
    cases honce hmem
    rw [hwrites, hsaid] at hc
    cases hc
  · intro kind' existing hmem c
    cases honce hmem
    obtain ⟨_, ⟨hlists, -⟩, -⟩ := served
    rw [hwrites, hsaid, List.mem_map]
    constructor
    · rintro ⟨⟨object, hobject, rfl⟩, -⟩
      exact ⟨object, (mem_staleObjects_iff hlists).1 hobject, rfl⟩
    · rintro ⟨object, hobject, rfl⟩
      exact ⟨⟨object, (mem_staleObjects_iff hlists).2 hobject, rfl⟩, rfl⟩

theorem Stale.congr {t : Stores} {object : Resource kind} (h : b.Stale s object)
    (hfind : ∀ name, t.find? kind b.installation.ns name = s.find? kind b.installation.ns name) :
    b.Stale t object := by
  obtain ⟨name, hstored⟩ := h.stored
  exact { h with stored := ⟨name, (hfind name).trans hstored⟩ }

theorem Sweeps.kind_of_listing {kinds : List Kind} {reply : Outcome (List (Resource kind))}
    (h : b.Sweeps kinds s log) (hmem : b.listing kind reply ∈ log) : kind ∈ kinds :=
  h.within _ (List.mem_filterMap.2 ⟨_, hmem, rfl⟩)

theorem Sweeps.kind_of_write {kinds : List Kind} {c : Call} (h : b.Sweeps kinds s log)
    (hc : c ∈ writesOf log) : c.kind ∈ kinds :=
  h.within c (List.mem_filter.1 hc).1

/-- Sweeps of different kinds do not meet, as long as the later one finds its objects as they
were. -/
theorem Sweeps.append {kinds later : List Kind} {mid : Stores} {rest : List Exchange}
    (hfirst : b.Sweeps kinds s log) (hrest : b.Sweeps later mid rest)
    (hdisjoint : kinds.Disjoint later)
    (hfind : ∀ kind ∈ later, ∀ name,
      mid.find? kind b.installation.ns name = s.find? kind b.installation.ns name) :
    b.Sweeps (kinds ++ later) s (log ++ rest) := by
  have hwrites {c : Call} : c ∈ writesOf (log ++ rest) ↔ c ∈ writesOf log ∨ c ∈ writesOf rest := by
    rw [writesOf_append, List.mem_append]
  have inFirst {kind : Kind} (hkind : kind ∈ kinds) (c : Call) :
      c ∈ writesOf (log ++ rest) ∧ c.kind = kind ↔ c ∈ writesOf log ∧ c.kind = kind := by
    refine and_congr_left fun heq => hwrites.trans (or_iff_left fun hc => ?_)
    exact hdisjoint hkind (heq ▸ hrest.kind_of_write hc)
  have inRest {kind : Kind} (hkind : kind ∈ later) (c : Call) :
      c ∈ writesOf (log ++ rest) ∧ c.kind = kind ↔ c ∈ writesOf rest ∧ c.kind = kind := by
    refine and_congr_left fun heq => hwrites.trans (or_iff_right fun hc => ?_)
    exact hdisjoint (heq ▸ hfirst.kind_of_write hc) hkind
  constructor
  · intro c hc
    rw [callsOf_append] at hc
    exact List.mem_append.2 ((List.mem_append.1 hc).imp (hfirst.within c) (hrest.within c))
  · intro kind hkind
    rcases List.mem_append.1 hkind with hkind | hkind
    · exact (hfirst.listed kind hkind).imp fun _ => List.mem_append_left _
    · exact (hrest.listed kind hkind).imp fun _ => List.mem_append_right _
  · intro kind e hmem c hc heq
    rcases List.mem_append.1 hmem with hmem | hmem
    · have hc := (inFirst (hfirst.kind_of_listing hmem) c).1 ⟨hc, heq⟩
      exact hfirst.unlisted kind e hmem c hc.1 heq
    · have hc := (inRest (hrest.kind_of_listing hmem) c).1 ⟨hc, heq⟩
      exact hrest.unlisted kind e hmem c hc.1 heq
  · intro kind existing hmem c
    rcases List.mem_append.1 hmem with hmem | hmem
    · rw [inFirst (hfirst.kind_of_listing hmem)]
      exact hfirst.removed kind existing hmem c
    · have hkind := hrest.kind_of_listing hmem
      rw [inRest hkind, hrest.removed kind existing hmem c]
      refine exists_congr fun object => and_congr_left fun _ => ?_
      exact ⟨fun h => h.congr fun name => (hfind kind hkind name).symm,
        fun h => h.congr (hfind kind hkind)⟩

/-- The kinds are swept one after the other, and no sweep changes what a later one finds. -/
theorem sweeps_foldlM {kinds : List Kind} {last : Stores} (hnodup : kinds.Nodup)
    (h : Dialogue (kinds.foldlM (sweepKind b regarding) report) log report')
    (served : Served Stores.Takes s log last) : b.Sweeps kinds s log := by
  induction kinds generalizing report log s with
  | nil =>
    obtain ⟨rfl, -⟩ := dialogue_pure.1 h
    exact ⟨nofun, nofun, nofun, nofun⟩
  | cons kind kinds ih =>
    obtain ⟨hnotMem, hnodup⟩ := List.nodup_cons.1 hnodup
    rw [List.foldlM_cons] at h
    obtain ⟨head, between, tail, rfl, hhead, htail⟩ := dialogue_bind.1 h
    obtain ⟨mid, hserved, onward⟩ := served_append.1 served
    have first := sweeps_sweepKind hhead hserved
    refine first.append (ih hnodup htail onward) (List.disjoint_left.2 ?_) ?_
    · intro other hother
      rwa [List.mem_singleton.1 hother]
    · intro other hother name
      refine hserved.find?_of_ne fun c hc hkey => ?_
      have hkind := List.mem_singleton.1 (first.kind_of_write hc)
      have heq : c.kind = other := congrArg Prod.fst hkey
      exact hnotMem (hkind ▸ heq ▸ hother)

/-- Whatever is swept away was stale. -/
theorem Sweeps.stale_of_write {kinds : List Kind} {c : Call} (h : b.Sweeps kinds s log)
    (hc : c ∈ writesOf log) :
    ∃ object : Resource c.kind, b.Stale s object ∧ c = b.removal object := by
  obtain ⟨reply, hmem⟩ := h.listed c.kind (h.kind_of_write hc)
  cases reply with
  | error e => exact absurd rfl (h.unlisted c.kind e hmem c hc)
  | ok existing => exact (h.removed c.kind existing hmem c).1 ⟨hc, rfl⟩

/-- What a request writes has a name of something that is built for the installation. -/
def WritesClaimed (b : Blueprint) (request : Request) : Prop :=
  request.Writes fun {kind} object => b.Claims kind object.name

theorem only_writesClaimed {desired : Resource kind} (h : b.Claims kind desired.name) :
    Only b.WritesClaimed (reconcileObject regarding desired) := by
  refine only_reconcileObject trivial h (fun hm => ?_) trivial fun _ _ => trivial
  change b.Claims kind _
  rw [Resource.name_migrate hm]
  exact h

theorem name_commonConfigMap (b : Blueprint) (e : Exclusion) :
    (b.commonConfigMap e).metadata.name = some b.installation.commonConfigMapName :=
  rfl

theorem permits_writesClaimed : b.Permits regarding b.WritesClaimed where
  common e := by
    refine only_writesClaimed ?_
    rw [Resource.name, name_commonConfigMap]
    exact claims_iff.2 (List.mem_cons_self ..)
  object h := only_writesClaimed (claims_of_mem_objects h)
  delete _ _ _ := only_deleteObject trivial fun _ _ => trivial
  list _ := trivial
  dropDnsCache _ := trivial
  forgetHost _ := trivial

theorem claims_of_writesOf {c : Call} (only : ∀ x ∈ log, b.WritesClaimed x.request)
    (hc : c ∈ writesOf log) (hverb : c.verb ≠ .delete) : b.Claims c.kind c.name := by
  obtain ⟨hcall, hwrite⟩ := List.mem_filter.1 hc
  obtain ⟨⟨request, reply⟩, hx, hrequest⟩ := List.mem_filterMap.1 hcall
  have hclaimed := only _ hx
  cases request with
  | create object | update object =>
    obtain rfl := Option.some.inj hrequest
    exact hclaimed
  | delete kind ns name =>
    obtain rfl := Option.some.inj hrequest
    exact absurd rfl hverb
  | get | list =>
    obtain rfl := Option.some.inj hrequest
    cases hwrite
  | writeStatus | publish | dropDnsCache | forgetHost => cases hrequest

/-- The sweep has its place in a pass. -/
theorem dialogue_converge_sweep {report : PassReport}
    (h : Dialogue (converge b regarding) log report) :
    ∃ before swept after begun ended, log = before ++ (swept ++ after) ∧
      Dialogue (sweep b regarding begun) swept ended := by
  obtain ⟨first, _, _, rfl, -, h⟩ := dialogue_bind.1 h
  obtain ⟨second, _, _, rfl, -, h⟩ := dialogue_bind.1 h
  obtain ⟨third, _, _, rfl, -, h⟩ := dialogue_bind.1 h
  obtain ⟨fourth, _, _, rfl, -, h⟩ := dialogue_bind.1 h
  obtain ⟨fifth, begun, _, rfl, -, h⟩ := dialogue_bind.1 h
  obtain ⟨swept, ended, after, rfl, hswept, -⟩ := dialogue_bind.1 h
  exact ⟨first ++ (second ++ (third ++ (fourth ++ fifth))), swept, after, begun, ended,
    by simp only [List.append_assoc], hswept⟩

end Blueprint

/-- A sweep removes the stale objects of the kinds that it can list, and nothing else. In a pass, it
removes nothing that the pass has created or updated, and nothing that could not be built. -/
theorem sweep_removes_stale (b : Blueprint) (regarding : Regarding) :
    (∀ {report report' : PassReport} {log : List Exchange} {s last : Stores},
      Dialogue (sweep b regarding report) log report' → Served Stores.Takes s log last →
      b.Sweeps sweptKinds s log) ∧
    ∀ {report : PassReport} {log : List Exchange} {s last : Stores},
      Dialogue (converge b regarding) log report → Served Stores.Takes s log last →
      ∃ before swept after begun ended t u, log = before ++ (swept ++ after) ∧
        Served Stores.Takes s before t ∧ Dialogue (sweep b regarding begun) swept ended ∧
        Served Stores.Takes t swept u ∧ b.Sweeps sweptKinds t swept ∧
        ∀ c ∈ writesOf swept,
          (∀ d ∈ writesOf log, d.verb ≠ .delete → d.kind = c.kind → d.name ≠ c.name) ∧
          ∀ draft ∈ b.drafts c.kind, ∀ e, draft.built = .error e → draft.name ≠ c.name := by
  have sweeps {report report' : PassReport} {log : List Exchange} {s last : Stores}
      (hsaid : Dialogue (sweep b regarding report) log report')
      (served : Served Stores.Takes s log last) : b.Sweeps sweptKinds s log :=
    Blueprint.sweeps_foldlM (by decide) hsaid served
  refine ⟨sweeps, fun hsaid served => ?_⟩
  have only := (Blueprint.only_converge Blueprint.permits_writesClaimed).of_dialogue hsaid
  obtain ⟨before, swept, after, begun, ended, rfl, hswept⟩ :=
    Blueprint.dialogue_converge_sweep hsaid
  obtain ⟨t, hbefore, served⟩ := served_append.1 served
  obtain ⟨u, hserved, -⟩ := served_append.1 served
  refine ⟨before, swept, after, begun, ended, t, u, rfl, hbefore, hswept, hserved,
    sweeps hswept hserved, fun c hc => ?_⟩
  obtain ⟨object, hstale, hremoval⟩ := (sweeps hswept hserved).stale_of_write hc
  have hname : c.name = object.anyName := congrArg Call.name hremoval
  refine ⟨fun d hd hverb hkind heq => hstale.unclaimed ?_, fun draft hdraft e he heq => ?_⟩
  · rw [← hname, ← heq, ← hkind]
    exact Blueprint.claims_of_writesOf only hd hverb
  · exact hstale.unclaimed ⟨draft, hdraft, .inr ⟨e, he, heq.trans hname⟩⟩

/-- A Service with the labels of an installation and with some owner. -/
def stray (name owner : String) : Resource .service where
  metadata := {
    name := some name
    ns := some "ns"
    labels := some (Labels.ofInstallation "demo")
    ownerReferences := some [{ kind := InstallationResource.kindName, uid := owner }] }
  body := {}

/-- Two such Services, of which the installation owns one. -/
def strays : Stores := (Stores.put {} (stray "old" "uid-1")).put (stray "other" "uid-2")

theorem find?_strays_other :
    strays.find? .service "ns" "other" = some ((stray "other" "uid-2").numbered 2) :=
  Stores.find?_put_self _ (stray "other" "uid-2")

theorem find?_strays_of_ne {name : String} (h : name ≠ "other") :
    strays.find? .service "ns" name =
      (Stores.put {} (stray "old" "uid-1")).find? .service "ns" name :=
  Stores.find?_put_of_ne _ _ fun e => h (congrArg (·.2.2) e).symm

theorem find?_strays_old :
    strays.find? .service "ns" "old" = some ((stray "old" "uid-1").numbered 1) :=
  (find?_strays_of_ne (by decide)).trans (Stores.find?_put_self {} (stray "old" "uid-1"))

theorem find?_strays {name : String} {object : Resource .service}
    (h : strays.find? .service "ns" name = some object) :
    object = (stray "old" "uid-1").numbered 1 ∨ object = (stray "other" "uid-2").numbered 2 := by
  by_cases hother : name = "other"
  · rw [hother, find?_strays_other] at h
    exact .inr (Option.some.inj h).symm
  · by_cases hold : name = "old"
    · rw [hold, find?_strays_old] at h
      exact .inl (Option.some.inj h).symm
    · have hne : (Kind.service, "ns", "old") ≠ (Kind.service, "ns", name) :=
        fun e => hold (congrArg (·.2.2) e).symm
      rw [find?_strays_of_ne hother, Stores.find?_put_of_ne _ _ hne, find?_empty_stores] at h
      cases h

/-- Of two Services that are not wanted, the one with the installation for an owner is removed. -/
theorem sweep_removes_stray :
    ∃ i report log last, (demo ["main"]).normalize {} = .ok i ∧
      Dialogue (sweep ⟨i, {}, .server⟩ default {}) log report ∧
      Served Stores.Takes strays log last ∧
      ⟨.delete, .service, "ns", "old"⟩ ∈ writesOf log ∧
      ⟨.delete, .service, "ns", "other"⟩ ∉ writesOf log := by
  obtain ⟨i, hnormal⟩ := exists_normalize_demo ["main"] rfl
  obtain ⟨hidentity, -⟩ := identity_of_normalize (declares_demo ["main"]) hnormal
  have hns : i.ns = "ns" := congrArg Identity.ns hidentity
  have hname : i.name = "demo" := congrArg Identity.name hidentity
  have huid : i.uid = some "uid-1" := congrArg Identity.uid hidentity
  let b : Blueprint := ⟨i, {}, .server⟩
  obtain ⟨report, last, run⟩ := exists_runs Stores.exists_grants (sweep b default {}) strays
  obtain ⟨log, hsaid, granted⟩ := runs_iff_dialogue.1 run
  have served := granted.mono Stores.Grants.takes
  have sweeps := (sweep_removes_stale b default).1 hsaid served
  obtain ⟨reply, hlisting⟩ := sweeps.listed .service (by decide)
  obtain ⟨existing, rfl⟩ : ∃ existing, reply = .ok existing := by
    obtain ⟨_, _, ⟨existing, hreply, -⟩, -⟩ := granted.exists_of_mem hlisting
    exact ⟨existing, hreply⟩
  have removed := sweeps.removed .service existing hlisting
  refine ⟨i, report, log, last, hnormal, hsaid, served, ?_, fun hmem => ?_⟩
  · have hstale : b.Stale strays ((stray "old" "uid-1").numbered 1) := by
      refine ⟨⟨"old", hns.symm ▸ find?_strays_old⟩, ?_, ?_, fun hclaims => ?_⟩
      · change Resource.Carries _ (Labels.ofInstallation i.name)
        rw [hname]
        exact fun key value hkey => hkey
      · intro uid hiuid
        obtain rfl := Option.some.inj (huid.symm.trans hiuid)
        exact ⟨_, List.mem_singleton_self _, rfl⟩
      · rw [Blueprint.claims_iff, Blueprint.desiredNames_eq, objectNames_demo hnormal] at hclaims
        revert hclaims
        decide
    refine ((removed _).2 ⟨_, hstale, ?_⟩).1
    rw [Blueprint.removal, hns]
    rfl
  · obtain ⟨object, hstale, hremoval⟩ := (removed _).1 ⟨hmem, rfl⟩
    obtain ⟨name, hstored⟩ := hstale.stored
    rcases find?_strays (hns ▸ hstored) with rfl | rfl
    · have hold : "other" = "old" := congrArg Call.name hremoval
      exact absurd hold (by decide)
    · obtain ⟨owner, howner, hiuid⟩ := hstale.owned "uid-1" huid
      rw [List.mem_singleton.1 howner] at hiuid
      exact absurd hiuid (by decide)

end ShardOperator
