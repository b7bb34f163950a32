import Mathlib.Data.List.Nodup
import ShardOperator.Proofs.Reconcile.Convergence
import ShardOperator.Proofs.Reconcile.Idle

namespace ShardOperator

open Program Simulation Reconcile

/-- The metadata but for the version in the store. -/
def Resource.description {kind : Kind} (object : Resource kind) : ObjectMeta :=
  { object.metadata with resourceVersion := none }

/-- A workload but for its status and its version in the store. -/
def Resource.statusless (workload : Resource .statefulSet) : Resource .statefulSet :=
  let body : StatefulSetBody := { spec := StatefulSetBody.spec workload.body }
  { metadata := workload.description, body }

namespace Simulation.Stores

/-- Workloads may have got other statuses. Nothing else has changed. -/
structure SameButStatus (s next : Stores) : Prop where
  workload : ∀ ns name, (next.find? .statefulSet ns name).map Resource.statusless =
    (s.find? .statefulSet ns name).map Resource.statusless
  other : ∀ kind, kind ≠ .statefulSet → ∀ ns name, next.find? kind ns name = s.find? kind ns name

variable {s next : Stores} {kind : Kind} {ns name : String} {object : Resource kind}

theorem SameButStatus.description (same : s.SameButStatus next) (kind : Kind) (ns name : String) :
    (next.find? kind ns name).map Resource.description =
      (s.find? kind ns name).map Resource.description := by
  cases kind with
  | statefulSet =>
    have h := congrArg (Option.map Resource.metadata) (same.workload ns name)
    rw [Option.map_map, Option.map_map] at h
    exact h
  | service | configMap | disruptionBudget => rw [same.other _ (by decide)]

theorem SameButStatus.symm (same : s.SameButStatus next) : next.SameButStatus s :=
  ⟨fun ns name => (same.workload ns name).symm,
    fun kind hkind ns name => (same.other kind hkind ns name).symm⟩

/-- Every object was there before, with the same metadata. -/
theorem SameButStatus.find? (same : s.SameButStatus next)
    (h : next.find? kind ns name = some object) :
    ∃ before, s.find? kind ns name = some before ∧ before.description = object.description := by
  have hsame := same.description kind ns name
  rw [h] at hsame
  exact Option.map_eq_some_iff.1 hsame.symm

end Simulation.Stores

variable {id : Identity} {start s last next : Stores} {flavour : Flavour} {defaults : HostDefaults}
  {chi : InstallationResource} {i : Installation} {report : PassReport}

section Description

variable {kind : Kind} {object other : Resource kind} {selector : Labels}
  (hsame : object.description = other.description)

include hsame

theorem carries_of_description (h : object.Carries selector) : other.Carries selector := by
  have hlabels := congrArg ObjectMeta.labels hsame
  change object.metadata.labels = other.metadata.labels at hlabels
  unfold Resource.Carries
  rw [← hlabels]
  exact h

theorem version?_of_description : object.version? = other.version? := by
  have hannotations := congrArg ObjectMeta.annotations hsame
  change object.metadata.annotations = other.metadata.annotations at hannotations
  unfold Resource.version?
  rw [hannotations]

theorem anyName_of_description : object.anyName = other.anyName := by
  have hname := congrArg ObjectMeta.name hsame
  have hstem := congrArg ObjectMeta.generateName hsame
  change object.metadata.name = other.metadata.name at hname
  change object.metadata.generateName = other.metadata.generateName at hstem
  unfold Resource.anyName
  rw [hname, hstem]

end Description

theorem Simulation.Stores.SameButStatus.stands {kind : Kind} {desired : Resource kind}
    (same : s.SameButStatus next) (h : Stands desired s) : Stands desired next := by
  obtain ⟨object, hfind, hversion⟩ := h
  obtain ⟨after, hafter, hsame⟩ := same.symm.find? hfind
  exact ⟨after, hafter, (version?_of_description hsame).trans hversion⟩

namespace Reconcile

theorem includes_peersBefore {host : Host} (hadd : host.flags.add = false)
    (hremove : host.flags.remove = false) : peersBefore.includes host = true := by
  simp [peersBefore, Exclusion.includes, Exclusion.excludes, Exclusion.excludeFlags, Exclusion.none,
    HostFlags.intersects, hadd, hremove]

/-- A host with a workload is neither about to come nor about to go. -/
theorem observedFlags_of_mem {existing : List (Resource .statefulSet)} {host : Host}
    {workload : Resource .statefulSet} (hmem : workload ∈ existing)
    (hname : workload.anyName = host.address.workloadName) :
    (observedFlags existing host).add = false ∧ (observedFlags existing host).remove = false := by
  unfold observedFlags
  split
  · exact ⟨rfl, rfl⟩
  · next hnone =>
    have hother := List.find?_eq_none.1 hnone workload hmem
    simp [hname] at hother

end Reconcile

namespace Blueprint

variable {b : Blueprint} (settled : b.Settled s) (placed : b.installation.Placed)
  (spare : b.installation.templates.SpareLabels)

include settled

/-- Whatever has the labels of the installation has a name that is wanted. -/
theorem Settled.wanted (tidy : b.installation.identity.Tidy s) {kind : Kind} {name : String}
    {object : Resource kind} (hfind : s.find? kind b.installation.ns name = some object)
    (hcarries : object.Carries b.installation.selector) :
    object.anyName ∈ b.installation.objectNames kind := by
  obtain ⟨hbelongs, hname⟩ := tidy kind name object hfind hcarries
  rw [hbelongs.anyName, hname]
  by_cases hwanted : name ∈ b.installation.objectNames kind
  · exact hwanted
  · exact absurd hcarries (settled.clear kind name hwanted object hfind)

include placed spare

/-- Where no two objects of a kind have the same name, each of them is in its place. -/
theorem Settled.stands_of_mem {kind : Kind} (distinct : ((b.objects kind).map Resource.name).Nodup)
    {desired : Resource kind} (h : desired ∈ b.objects kind) : Stands desired s := by
  obtain ⟨name, hname, hbuilt⟩ := built_of_mem_objects placed spare h
  obtain ⟨other, hother, hsame, stands⟩ := settled.stands kind name hname
  have heq : other = desired :=
    List.inj_on_of_nodup_map distinct hother h (hsame.trans hbuilt.name.symm)
  rw [← heq]
  exact stands

/-- Every host has a workload with the labels of the installation, if it had not one without them
from the start. -/
theorem Settled.exists_workload
    (distinct : ((b.objects .statefulSet).map Resource.name).Nodup)
    (accounts : b.installation.identity.Accounts start s)
    (fresh : ∀ host ∈ b.installation.hosts, ¬ Stands (b.workload host) start) {host : Host}
    (hhost : host ∈ b.installation.hosts) :
    ∃ workload, s.find? .statefulSet b.installation.ns host.address.workloadName = some workload ∧
      workload.Carries b.installation.selector ∧
      workload.anyName = host.address.workloadName := by
  have hmem : b.workload host ∈ b.objects .statefulSet := List.mem_map_of_mem hhost
  have hbuilt := built_workload placed hhost
  have hns : (b.workload host).ns = b.installation.identity.ns := hbuilt.belongs.ns
  obtain ⟨workload, hfind, hversion⟩ := settled.stands_of_mem placed spare distinct hmem
  have hplace := hfind
  rw [hns, hbuilt.name] at hplace
  rcases accounts .statefulSet _ workload hplace with hstart | ⟨hbelongs, hname⟩
  · rw [← hns, ← hbuilt.name] at hstart
    exact absurd ⟨workload, hstart, hversion⟩ (fresh host hhost)
  · exact ⟨workload, hplace, hbelongs.carries, hbelongs.anyName.trans hname⟩

/-- After an observation of settled stores, in which statuses may have changed, there is nothing to
do. -/
theorem Settled.atRest (distinct : ∀ kind, ((b.objects kind).map Resource.name).Nodup)
    (tidy : b.installation.identity.Tidy s)
    (accounts : b.installation.identity.Accounts start s)
    (fresh : ∀ host ∈ b.installation.hosts, ¬ Stands (b.workload host) start)
    (same : s.SameButStatus next) (hremoved : b.installation.removed = [])
    {existing : List (Resource .statefulSet)}
    (hlists : next.Lists .statefulSet b.installation.ns b.installation.selector existing) :
    (b.observe existing).AtRest next := by
  have stands (kind : Kind) (desired : Resource kind) (h : desired ∈ b.objects kind) :
      Stands desired next :=
    same.stands (settled.stands_of_mem placed spare (distinct kind) h)
  have wanted (kind : Kind) (name : String) (object : Resource kind)
      (hfind : next.find? kind b.installation.ns name = some object)
      (hcarries : object.Carries b.installation.selector) :
      object.anyName ∈ b.installation.objectNames kind := by
    obtain ⟨before, hbefore, hsame⟩ := same.find? hfind
    rw [← anyName_of_description hsame]
    exact settled.wanted tidy hbefore (carries_of_description hsame.symm hcarries)
  have flags (host : Host) (hhost : host ∈ b.installation.hosts) :
      (seen existing host).flags.add = false ∧ (seen existing host).flags.remove = false := by
    obtain ⟨workload, hfind, hcarries, hname⟩ :=
      settled.exists_workload placed spare (distinct .statefulSet) accounts fresh hhost
    obtain ⟨after, hafter, hsame⟩ := same.symm.find? hfind
    have hexisting : after ∈ existing :=
      (hlists after).2 ⟨⟨_, hafter⟩, carries_of_description hsame.symm hcarries⟩
    exact observedFlags_of_mem hexisting ((anyName_of_description hsame).trans hname)
  have orphans : orphanAddresses b.installation existing = [] := by
    unfold orphanAddresses
    rw [List.filter_eq_nil_iff.2, List.filterMap_nil]
    intro workload hworkload
    obtain ⟨⟨name, hfind⟩, hcarries⟩ := (hlists workload).1 hworkload
    simp [isClaimed_iff.2 (wanted .statefulSet name workload hfind hcarries)]
  constructor
  · exact (b.buildable_observe existing).2 settled.buildable
  · rw [b.objects_observe existing]
    exact stands
  · -- Every host has been found, so the first writing of the common files leaves none out.
    rw [b.commonConfigMap_observe existing fun host hhost =>
      includes_peersBefore (flags host hhost).1 (flags host hhost).2]
    exact stands .configMap _ mem_objects_commonConfigMap
  · intro host hhost
    rw [hosts_observe] at hhost
    obtain ⟨before, hbefore, rfl⟩ := List.mem_map.1 hhost
    exact (flags before hbefore).1
  · change b.installation.removed ++
      List.map _ (orphanAddresses b.installation existing).zipIdx = []
    rw [hremoved, orphans]
    rfl
  · change ∀ kind name object, _ → _ → _ ∈ (observed b.installation existing).objectNames kind
    rw [objectNames_observed]
    exact wanted

end Blueprint

theorem Reconcile.reads_writeStatus {ns name : String} {status : InstallationStatus} :
    Reads s (fun _ => True) (writeStatus ns name status) :=
  (reads_call rfl).bind fun _ _ => reads_pure trivial

theorem Reconcile.reads_observe (i : Installation) :
    Reads s (fun seen => ∃ existing, s.Lists .statefulSet i.ns i.selector existing ∧
      seen = .ok (observed i existing)) (observe i) := by
  refine (reads_call rfl).bind fun reply served => ?_
  obtain ⟨⟨existing, rfl, hlists⟩, -⟩ := served
  exact ⟨existing, hlists, rfl⟩

/-- A pass over stores that another pass has settled only looks at them. -/
theorem reads_pass (unmarked : id.Unmarked start) (accounts : id.Accounts start s)
    (declares : id.Declares chi) (spare : (chi.spec.templates.getD {}).SpareLabels)
    (run : Runs Stores.ServesTruly (pass flavour defaults chi) s (.ok report) last)
    (hsuccess : report.isSuccess = true) (hnormal : chi.normalize defaults = .ok i)
    (distinct : ∀ kind,
      ((Blueprint.objects ⟨i, defaults, flavour⟩ kind).map Resource.name).Nodup)
    (fresh : ∀ host ∈ i.hosts, ¬ Stands (Blueprint.workload ⟨i, defaults, flavour⟩ host) start)
    (same : last.SameButStatus next) :
    Reads next (fun outcome => ∃ again, outcome = .ok again ∧ again.Idle)
      (pass flavour defaults chi) := by
  obtain ⟨j, hj, hlast, settled⟩ := settled_pass unmarked accounts declares spare run hsuccess
  obtain rfl : j = i := Except.ok.inj (hj.symm.trans hnormal)
  obtain ⟨hidentity, placed, hremoved, htemplates⟩ := identity_of_normalize declares hnormal
  have hspare : j.templates.SpareLabels := htemplates ▸ spare
  subst hidentity
  unfold Reconcile.pass
  rw [hnormal]
  refine reads_writeStatus.bind fun _ _ => (reads_call rfl).bind fun _ _ => ?_
  refine (reads_observe j).bind fun seen hseen => ?_
  obtain ⟨existing, hlists, rfl⟩ := hseen
  have rest : (Blueprint.observe ⟨j, defaults, flavour⟩ existing).AtRest next :=
    settled.atRest placed hspare distinct (hlast.tidy unmarked) hlast fresh same hremoved hlists
  refine (Blueprint.reads_converge rest (placed_observed placed existing) hspare).bind
    fun again idle => ?_
  exact reads_writeStatus.bind fun _ _ => (reads_call rfl).bind fun _ _ => ⟨again, rfl, idle⟩

/-- Idempotence. A pass over a resource that the pass before it has brought about, if no call fails,
comes to its end, writes and deletes nothing on its way, and has found every object as it should
be. -/
theorem idempotent (unmarked : id.Unmarked start)
    (history : History Stores.ServesTruly id start s) (declares : id.Declares chi)
    (spare : (chi.spec.templates.getD {}).SpareLabels)
    (run : Runs Stores.ServesTruly (pass flavour defaults chi) s (.ok report) last)
    (hsuccess : report.isSuccess = true) (hnormal : chi.normalize defaults = .ok i)
    (distinct : ∀ kind,
      ((Blueprint.objects ⟨i, defaults, flavour⟩ kind).map Resource.name).Nodup)
    (fresh : ∀ host ∈ i.hosts, ¬ Stands (Blueprint.workload ⟨i, defaults, flavour⟩ host) start)
    (same : last.SameButStatus next) :
    (∃ again, Runs Stores.Grants (pass flavour defaults chi) next (.ok again) next) ∧
      ∀ {trace rest final}, Path Stores.Grants (pass flavour defaults chi) next trace rest final →
        final = next ∧ (∀ request ∈ trace, request.target? = none) ∧
          ∀ outcome, rest = .done outcome → ∃ again, outcome = .ok again ∧ again.Idle := by
  have reads := reads_pass unmarked (history.mono And.left).accounts declares spare run hsuccess
    hnormal distinct fresh same
  constructor
  · obtain ⟨outcome, final, trace, path⟩ :=
      exists_runs Stores.exists_grants (pass flavour defaults chi) next
    obtain ⟨rfl, -, again, rfl, -⟩ := path.reads reads
    exact ⟨again, trace, path⟩
  · intro trace rest final path
    obtain ⟨hfinal, htrace, hrest⟩ := path.reads reads
    refine ⟨hfinal, htrace, fun outcome hdone => ?_⟩
    subst hdone
    exact hrest

section Demo

theorem names_objects_demo {i : Installation} (h : (demo ["main"]).normalize {} = .ok i)
    (kind : Kind) :
    (Blueprint.objects ⟨i, {}, .server⟩ kind).map Resource.name = demoNames kind := by
  have hnames : ((demo ["main"]).normalize {}).map (fun i =>
      (Blueprint.objects ⟨i, {}, .server⟩ kind).map Resource.name) = .ok (demoNames kind) := by
    cases kind <;> rfl
  rw [h] at hnames
  exact Except.ok.inj hnames

theorem nodup_demoNames (kind : Kind) : (demoNames kind).Nodup := by
  cases kind <;> decide

theorem not_stands_empty {kind : Kind} (desired : Resource kind) : ¬ Stands desired {} := by
  rintro ⟨object, hfind, -⟩
  rw [find?_empty_stores] at hfind
  cases hfind

/-- The pass after the one that took a cluster out finds nothing to do. -/
theorem idempotent_demo :
    ∃ s last report again, History Stores.ServesTruly demoIdentity {} s ∧
      Runs Stores.ServesTruly (pass .server {} (demo ["main"])) s (.ok report) last ∧
      report.isSuccess = true ∧
      (s.find? .statefulSet "ns" "chi-demo-spare-0-0").isSome = true ∧
      Runs Stores.Grants (pass .server {} (demo ["main"])) last (.ok again) last ∧ again.Idle := by
  obtain ⟨s, history, hspare⟩ := exists_history_demo
  obtain ⟨i, hnormal⟩ := exists_normalize_demo ["main"] rfl
  obtain ⟨report, last, run, hsuccess⟩ := demo_succeeds hnormal Or.inl Stores.exists_grants s
  have truly := run.mono Stores.Grants.servesTruly
  have distinct (kind : Kind) :
      ((Blueprint.objects ⟨i, {}, .server⟩ kind).map Resource.name).Nodup := by
    rw [names_objects_demo hnormal]
    exact nodup_demoNames kind
  obtain ⟨⟨again, trace, path⟩, idle⟩ := idempotent (unmarked_empty demoIdentity) history
    (declares_demo ["main"]) (spare_demo ["main"]) truly hsuccess hnormal distinct
    (fun _ _ => not_stands_empty _) ⟨fun _ _ => rfl, fun _ _ _ _ => rfl⟩
  obtain ⟨-, -, hdone⟩ := idle path
  obtain ⟨again', hagain, hidle⟩ := hdone _ rfl
  obtain rfl := Except.ok.inj hagain
  exact ⟨s, last, report, again, history, truly, hsuccess, hspare, ⟨trace, path⟩, hidle⟩

/-- With a deletion that is wrongly answered with not found, a pass without failures leaves the next
one something to do. -/
theorem mutation_after_success :
    ∃ s last report again final trace, History Stores.Serves demoIdentity {} s ∧
      Runs Stores.Serves (pass .server {} (demo ["main"])) s (.ok report) last ∧
      report.isSuccess = true ∧
      Path Stores.Grants (pass .server {} (demo ["main"])) last trace (.done again) final ∧
      ∃ request ∈ trace, request.target? ≠ none := by
  obtain ⟨s, last, report, history, run, hsuccess, hleft⟩ := exists_leftover_demo
  obtain ⟨i, hnormal⟩ := exists_normalize_demo ["main"] rfl
  obtain ⟨again, final, onward, hagain⟩ := demo_succeeds hnormal Or.inl Stores.exists_grants last
  have serves := run.mono Stores.Pretends.serves
  have declares := declares_demo ["main"]
  have spare := spare_demo ["main"]
  have accounts : demoIdentity.Accounts {} last := by
    obtain ⟨trace, path⟩ := serves
    exact (History.pass (history.mono And.left) declares spare path).accounts
  obtain ⟨j, hj, -, settled⟩ := settled_pass (unmarked_empty demoIdentity) accounts declares spare
    (onward.mono Stores.Grants.servesTruly) hagain
  obtain ⟨hidentity, -⟩ := identity_of_normalize declares hj
  have hunwanted : "chi-demo-spare-0-0" ∉ j.objectNames .statefulSet := by
    rw [objectNames_demo hj]
    decide
  obtain ⟨trace, path⟩ := onward
  refine ⟨s, last, report, .ok again, final, trace, history.mono And.left, serves, hsuccess, path,
    ?_⟩
  by_cases hquiet : ∀ request ∈ trace, request.target? = none
  · obtain rfl : final = last := path.eq_of_target?_eq_none hquiet
    obtain ⟨workload, hfind⟩ := Option.isSome_iff_exists.1 hleft
    have hcarries : workload.Carries demoIdentity.selector := by
      rcases accounts .statefulSet _ workload hfind with hstart | ⟨hbelongs, -⟩
      · rw [find?_empty_stores] at hstart
        cases hstart
      · exact hbelongs.carries
    rw [← hidentity] at hcarries
    have hplace : final.find? .statefulSet j.ns "chi-demo-spare-0-0" = some workload := by
      rw [show j.ns = "ns" from congrArg Identity.ns hidentity]
      exact hfind
    exact absurd hcarries (settled.clear .statefulSet _ hunwanted workload hplace)
  · simpa using hquiet

end Demo

end ShardOperator
