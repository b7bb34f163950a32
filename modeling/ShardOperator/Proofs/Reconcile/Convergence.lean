import ShardOperator.Proofs.Reconcile.Converging
import ShardOperator.Proofs.Reconcile.Success

namespace ShardOperator

open Program Simulation Reconcile

section Orphans

variable {i : Installation} {existing : List (Resource .statefulSet)} {s : Stores}
  {flavour : Flavour} {defaults : HostDefaults}

theorem isClaimed_iff {workload : Resource .statefulSet} :
    isClaimed i workload = true ↔ workload.anyName ∈ i.objectNames .statefulSet := by
  simp only [isClaimed, List.any_eq_true, beq_iff_eq, Installation.objectNames, List.mem_map]

/-- A workload of the installation tells the address under which it is taken down. -/
theorem address_of_belongs {id : Identity} {workload : Resource .statefulSet}
    (h : Belongs id workload) :
    ∃ a, HostAddress.ofLabels? (workload.metadata.labels.getD .empty) id.ns = some a ∧
      a.workloadName = workload.name ∧ a.ns = id.ns ∧ a.installation = id.name := by
  obtain ⟨a, ha, hwork⟩ := h.address rfl
  obtain ⟨shard, replica, inst, cluster, -, -, hinst, -, rfl⟩ := HostAddress.ofLabels?_eq_some.1 ha
  refine ⟨_, ha, hwork, rfl, ?_⟩
  have hmark := (Labels.carries_iff.1 h.carries).2
  rw [hmark] at hinst
  exact (Option.some.inj hinst).symm

theorem mem_removed_observed (hremoved : i.removed = []) {host : Host} :
    host ∈ (observed i existing).removed ↔
      ∃ address index, (address, index) ∈ (orphanAddresses i existing).zipIdx ∧
        host = orphanHost address index := by
  simp only [observed, hremoved, List.nil_append, List.length_nil, Nat.zero_add, List.mem_map,
    Prod.exists, eq_comm]

/-- Whatever is removed has no place in the installation. -/
theorem stray_of_mem_removed (hremoved : i.removed = []) (tidy : i.identity.Tidy s)
    (hlists : s.Lists .statefulSet i.ns i.selector existing) {host : Host}
    (hhost : host ∈ (observed i existing).removed) :
    Blueprint.Stray ⟨observed i existing, defaults, flavour⟩ host := by
  obtain ⟨address, index, hmem, rfl⟩ := (mem_removed_observed hremoved).1 hhost
  have haddress : address ∈ orphanAddresses i existing := List.fst_mem_of_mem_zipIdx hmem
  obtain ⟨workload, hworkload, hlabels⟩ := List.mem_filterMap.1 haddress
  obtain ⟨hexisting, hclaimed⟩ := List.mem_filter.1 hworkload
  obtain ⟨⟨name, hfind⟩, hcarries⟩ := (hlists workload).1 hexisting
  obtain ⟨hbelongs, hname⟩ := tidy .statefulSet name workload hfind hcarries
  obtain ⟨a, ha, hwork, hns, hinst⟩ := address_of_belongs hbelongs
  have hsame : a = address := Option.some.inj (ha.symm.trans hlabels)
  subst hsame
  refine ⟨hns, hinst, ?_⟩
  change a.workloadName ∉ (observed i existing).objectNames .statefulSet
  rw [objectNames_observed, hwork, ← hbelongs.anyName, ← isClaimed_iff]
  simpa using hclaimed

/-- A workload of the installation that has no place in it is removed. -/
theorem exists_mem_removed (hremoved : i.removed = [])
    (hlists : s.Lists .statefulSet i.ns i.selector existing) {name : String}
    {workload : Resource .statefulSet} (hfind : s.find? .statefulSet i.ns name = some workload)
    (hcarries : workload.Carries i.selector) (hbelongs : Belongs i.identity workload)
    (hname : workload.name = name) (hunclaimed : name ∉ i.objectNames .statefulSet) :
    ∃ host ∈ (observed i existing).removed, host.address.workloadName = name := by
  obtain ⟨a, ha, hwork, -, -⟩ := address_of_belongs hbelongs
  have hexisting : workload ∈ existing := (hlists workload).2 ⟨⟨name, hfind⟩, hcarries⟩
  have hclaimed : isClaimed i workload = false := by
    rw [← Bool.not_eq_true, isClaimed_iff, hbelongs.anyName, hname]
    exact hunclaimed
  have haddress : a ∈ orphanAddresses i existing :=
    List.mem_filterMap.2 ⟨workload, List.mem_filter.2 ⟨hexisting, by simp [hclaimed]⟩, ha⟩
  obtain ⟨index, hindex, hget⟩ := List.getElem_of_mem haddress
  refine ⟨orphanHost a index, (mem_removed_observed hremoved).2 ⟨a, index, ?_, rfl⟩, ?_⟩
  · rw [List.mem_zipIdx_iff_getElem?, List.getElem?_eq_getElem hindex, hget]
  · exact hwork.trans hname

end Orphans

variable {id : Identity} {start s last : Stores} {flavour : Flavour} {defaults : HostDefaults}
  {chi : InstallationResource} {report : PassReport}

/-- All objects of the installation can be built and are in their places, and no other object has
its labels. -/
structure Blueprint.Settled (b : Blueprint) (s : Stores) : Prop where
  buildable : b.Buildable
  stands : ∀ kind, ∀ name ∈ b.installation.objectNames kind,
    ∃ desired ∈ b.objects kind, desired.name = name ∧ Stands desired s
  clear : ∀ kind name, name ∉ b.installation.objectNames kind →
    ∀ object, s.find? kind b.installation.ns name = some object →
      ¬ object.Carries b.installation.selector

theorem Blueprint.Settled.isSome_find? {b : Blueprint} (settled : b.Settled s)
    (placed : b.installation.Placed) (spare : b.installation.templates.SpareLabels) {kind : Kind}
    {name : String} (h : name ∈ b.installation.objectNames kind) :
    (s.find? kind b.installation.ns name).isSome = true := by
  obtain ⟨desired, hmem, rfl, object, hfind, -⟩ := settled.stands kind name h
  obtain ⟨_, -, hbuilt⟩ := b.built_of_mem_objects placed spare hmem
  have hns : desired.ns = b.installation.ns := hbuilt.belongs.ns
  rw [← hns, hfind]
  rfl

/-- A pass without failures settles the installation that it is about. -/
theorem settled_pass (unmarked : id.Unmarked start) (accounts : id.Accounts start s)
    (declares : id.Declares chi) (spare : (chi.spec.templates.getD {}).SpareLabels)
    (run : Runs Stores.ServesTruly (pass flavour defaults chi) s (.ok report) last)
    (hsuccess : report.isSuccess = true) :
    ∃ i, chi.normalize defaults = .ok i ∧ id.Accounts start last ∧
      Blueprint.Settled ⟨i, defaults, flavour⟩ last := by
  obtain ⟨i, existing, hnormal, hlists, hconverge⟩ := runs_pass And.left run
  obtain ⟨hidentity, placed, hremoved, htemplates⟩ := identity_of_normalize declares hnormal
  let b : Blueprint := ⟨i, defaults, flavour⟩
  have hplaced : (b.observe existing).installation.Placed := placed_observed placed existing
  have hspare : (b.observe existing).installation.templates.SpareLabels := by
    change i.templates.SpareLabels
    rw [htemplates]
    exact spare
  have hnames : (b.observe existing).installation.objectNames = i.objectNames :=
    objectNames_observed i existing
  have tidy : i.identity.Tidy s := hidentity ▸ accounts.tidy unmarked
  have hlast : id.Accounts start last :=
    (run.mono And.left).invariant _ (fun writes served accounts => accounts.served writes served)
      (only_pass declares spare) accounts
  obtain ⟨stands, swept, removed, buildable⟩ := Blueprint.converged chi.reference hplaced hspare
    (fun host hhost => stray_of_mem_removed hremoved tidy hlists hhost) tidy hconverge hsuccess
  refine ⟨i, hnormal, hlast, (b.buildable_observe existing).1 buildable,
    fun kind name hname => ?_, fun kind name hname => ?_⟩
  · obtain ⟨desired, hmem, hdesired⟩ := stands kind name (by rw [hnames]; exact hname)
    rw [b.objects_observe] at hmem
    exact ⟨desired, hmem, hdesired⟩
  · have hunwanted : name ∉ (b.observe existing).installation.objectNames kind := by
      rw [hnames]
      exact hname
    cases kind with
    | service => exact (swept .service (by decide) name hunwanted).2
    | configMap => exact (swept .configMap (by decide) name hunwanted).2
    | disruptionBudget => exact (swept .disruptionBudget (by decide) name hunwanted).2
    | statefulSet =>
      -- Workloads are not swept: one that was listed is removed with its host, and where none was
      -- listed the pass writes none at a name that is not wanted.
      by_cases hmarked : ∃ object, s.find? .statefulSet i.ns name = some object ∧
          object.Carries i.selector
      · obtain ⟨object, hfind, hcarries⟩ := hmarked
        obtain ⟨hbelongs, hobject⟩ := tidy .statefulSet name object hfind hcarries
        obtain ⟨host, hhost, hwork⟩ :=
          exists_mem_removed hremoved hlists hfind hcarries hbelongs hobject hname
        rw [← hwork]
        exact (removed host hhost).2
      · have hclear : (b.observe existing).Meets s (.clear .statefulSet name) :=
          ⟨hunwanted, fun object hfind hcarries => hmarked ⟨object, hfind, hcarries⟩⟩
        exact (Blueprint.clear_of_only (Blueprint.only_converge
          (Blueprint.permits_owns hplaced hspare)) hconverge hclear).2

/-- Convergence. After passes of any kind over resources of one installation, cut off anywhere and
with any calls failing, a pass without failures leaves exactly the objects that its resource stands
for, besides what was there at the start and has not been touched. -/
theorem converges (unmarked : id.Unmarked start)
    (history : History Stores.ServesTruly id start s) (declares : id.Declares chi)
    (spare : (chi.spec.templates.getD {}).SpareLabels)
    (run : Runs Stores.ServesTruly (pass flavour defaults chi) s (.ok report) last)
    (hsuccess : report.isSuccess = true) :
    ∃ i, chi.normalize defaults = .ok i ∧ ∀ kind name,
      (last.find? kind id.ns name).isSome = true ↔
        name ∈ i.objectNames kind ∨
          ((start.find? kind id.ns name).isSome = true ∧
            last.find? kind id.ns name = start.find? kind id.ns name) := by
  have accounts := (history.mono And.left).accounts
  obtain ⟨i, hnormal, hlast, settled⟩ := settled_pass unmarked accounts declares spare run hsuccess
  obtain ⟨hidentity, placed, -, htemplates⟩ := identity_of_normalize declares hnormal
  have hspare : i.templates.SpareLabels := htemplates ▸ spare
  subst hidentity
  refine ⟨i, hnormal, fun kind name => ⟨fun hfound => ?_, fun h => ?_⟩⟩
  · by_cases hname : name ∈ i.objectNames kind
    · exact .inl hname
    · obtain ⟨object, hfind⟩ := Option.isSome_iff_exists.1 hfound
      rcases hlast kind name object hfind with hstart | ⟨hbelongs, -⟩
      · exact .inr ⟨by rw [hstart]; rfl, by rw [hstart, hfind]⟩
      · exact absurd hbelongs.carries (settled.clear kind name hname object hfind)
  · rcases h with hname | ⟨hfound, hsame⟩
    · exact settled.isSome_find? placed hspare hname
    · rw [hsame]
      exact hfound

section Demo

/-- An installation of clusters with one host each. -/
def demo (clusters : List String) : InstallationResource where
  metadata := { ns := some "ns", name := some "demo", uid := some "uid-1" }
  spec := { configuration := { clusters := clusters.map fun name => { name } } }

def demoIdentity : Identity := ⟨"ns", "demo", some "uid-1"⟩

/-- The names of the objects that the installation of the one cluster is made of. -/
def demoNames : Kind → List String
  | .service => ["clickhouse-demo", "chi-demo-main-0-0"]
  | .configMap =>
    ["chi-demo-common-configd", "chi-demo-common-usersd", "chi-demo-deploy-confd-main-0-0"]
  | .statefulSet => ["chi-demo-main-0-0"]
  | .disruptionBudget => ["demo-main"]

theorem declares_demo (clusters : List String) : demoIdentity.Declares (demo clusters) :=
  ⟨rfl, rfl, rfl⟩

theorem spare_demo (clusters : List String) :
    ((demo clusters).spec.templates.getD {}).SpareLabels := by
  intro template h
  cases h

theorem objectNames_demo {i : Installation} (h : (demo ["main"]).normalize {} = .ok i)
    (kind : Kind) : i.objectNames kind = demoNames kind := by
  have hnames : ((demo ["main"]).normalize {}).map (·.objectNames kind) = .ok (demoNames kind) := by
    cases kind <;> rfl
  rw [h] at hnames
  exact Except.ok.inj hnames

theorem find?_empty_stores (kind : Kind) (ns name : String) :
    ({} : Stores).find? kind ns name = none := by
  cases kind <;> rfl

theorem unmarked_empty (id : Identity) : id.Unmarked {} := by
  intro kind name object h
  rw [find?_empty_stores] at h
  cases h

/-- A pass over an installation of clusters with one host each has no failure where no call
fails. -/
theorem demo_succeeds {clusters : List String} {i : Installation}
    (hnormal : (demo clusters).normalize {} = .ok i) {service : Service}
    (obliges : ∀ {s request reply after}, service s request reply after →
      s.Obliges request reply after)
    (serves : ∀ s request, ∃ reply after, service s request reply after) (s : Stores) :
    ∃ report last, Runs service (pass .server {} (demo clusters)) s (.ok report) last ∧
      report.isSuccess = true := by
  obtain ⟨outcome, last, run⟩ := exists_runs serves (pass .server {} (demo clusters)) s
  obtain ⟨report, rfl, hsuccess⟩ :=
    pass_succeeds hnormal (fun t ht => absurd ht List.not_mem_nil) (run.mono obliges)
  exact ⟨report, last, run, hsuccess⟩

theorem exists_normalize_demo (clusters : List String)
    (h : ((demo clusters).normalize {}).isOk = true) :
    ∃ i, (demo clusters).normalize {} = .ok i := by
  cases hnormal : (demo clusters).normalize {} with
  | ok i => exact ⟨i, rfl⟩
  | error e =>
    rw [hnormal] at h
    cases h

/-- The stores after a first pass over an installation of two clusters. -/
theorem exists_history_demo :
    ∃ s, History Stores.ServesTruly demoIdentity {} s ∧
      (s.find? .statefulSet "ns" "chi-demo-spare-0-0").isSome = true := by
  obtain ⟨i, hnormal⟩ := exists_normalize_demo ["main", "spare"] rfl
  obtain ⟨report, s, run, hsuccess⟩ :=
    demo_succeeds hnormal Or.inl Stores.exists_grants {}
  have truly := run.mono Stores.Grants.servesTruly
  have declares := declares_demo ["main", "spare"]
  have spare := spare_demo ["main", "spare"]
  obtain ⟨j, hj, -, settled⟩ := settled_pass (unmarked_empty demoIdentity)
    (fun kind name object h => .inl h) declares spare truly hsuccess
  obtain ⟨hidentity, placed, -, htemplates⟩ := identity_of_normalize declares hj
  have hname : "chi-demo-spare-0-0" ∈ j.objectNames .statefulSet := by
    have hnames : ((demo ["main", "spare"]).normalize {}).map (·.objectNames .statefulSet) =
        .ok ["chi-demo-main-0-0", "chi-demo-spare-0-0"] := by
      rfl
    rw [hj] at hnames
    have hnames : j.objectNames .statefulSet = ["chi-demo-main-0-0", "chi-demo-spare-0-0"] :=
      Except.ok.inj hnames
    rw [hnames]
    exact List.mem_cons_of_mem _ (List.mem_singleton_self _)
  have hns : j.ns = "ns" := congrArg Identity.ns hidentity
  have hfound := settled.isSome_find? placed (htemplates ▸ spare) hname
  obtain ⟨trace, path⟩ := truly
  refine ⟨s, .pass .start declares spare path, ?_⟩
  rw [← hns]
  exact hfound

/-- A cluster is taken out of a running installation, and nothing of it is left. -/
theorem converges_demo :
    ∃ s last report, History Stores.ServesTruly demoIdentity {} s ∧
      Runs Stores.ServesTruly (pass .server {} (demo ["main"])) s (.ok report) last ∧
      report.isSuccess = true ∧
      (s.find? .statefulSet "ns" "chi-demo-spare-0-0").isSome = true ∧
      ∀ kind name, (last.find? kind "ns" name).isSome = true ↔ name ∈ demoNames kind := by
  obtain ⟨s, history, hspare⟩ := exists_history_demo
  obtain ⟨i, hnormal⟩ := exists_normalize_demo ["main"] rfl
  obtain ⟨report, last, run, hsuccess⟩ :=
    demo_succeeds hnormal Or.inl Stores.exists_grants s
  have truly := run.mono Stores.Grants.servesTruly
  obtain ⟨j, hj, hnames⟩ := converges (unmarked_empty demoIdentity) history (declares_demo ["main"])
    (spare_demo ["main"]) truly hsuccess
  refine ⟨s, last, report, history, truly, hsuccess, hspare, fun kind name => ?_⟩
  rw [← objectNames_demo hj kind]
  refine (hnames kind name).trans ⟨fun h => ?_, .inl⟩
  rcases h with h | ⟨hfound, -⟩
  · exact h
  · rw [find?_empty_stores] at hfound
    cases hfound

/-- A cluster is taken out of a running installation, and its workload stays, since the deletion is
answered with not found. -/
theorem exists_leftover_demo :
    ∃ s last report, History Stores.ServesTruly demoIdentity {} s ∧
      Runs Stores.Pretends (pass .server {} (demo ["main"])) s (.ok report) last ∧
      report.isSuccess = true ∧
      (last.find? .statefulSet "ns" "chi-demo-spare-0-0").isSome = true := by
  obtain ⟨s, history, hspare⟩ := exists_history_demo
  obtain ⟨i, hnormal⟩ := exists_normalize_demo ["main"] rfl
  obtain ⟨report, last, run, hsuccess⟩ := demo_succeeds hnormal Or.inr Stores.exists_pretends s
  refine ⟨s, last, report, history, run, hsuccess, ?_⟩
  exact run.invariant (fun t => (t.find? .statefulSet "ns" "chi-demo-spare-0-0").isSome = true)
    (fun _ served h => served.isSome_find? h) (only_pass (declares_demo ["main"])
      (spare_demo ["main"])) hspare

/-- With a deletion that is wrongly answered with not found, a pass without failures leaves
something of an earlier resource behind. -/
theorem leftover_after_success :
    ∃ i s last report, (demo ["main"]).normalize {} = .ok i ∧
      History Stores.Serves demoIdentity {} s ∧
      Runs Stores.Serves (pass .server {} (demo ["main"])) s (.ok report) last ∧
      report.isSuccess = true ∧
      ¬ ∀ kind name, (last.find? kind "ns" name).isSome = true ↔ name ∈ i.objectNames kind := by
  obtain ⟨s, last, report, history, run, hsuccess, hfound⟩ := exists_leftover_demo
  obtain ⟨i, hnormal⟩ := exists_normalize_demo ["main"] rfl
  refine ⟨i, s, last, report, hnormal, history.mono And.left, run.mono Stores.Pretends.serves,
    hsuccess, fun hnames => ?_⟩
  have hmem := (hnames .statefulSet "chi-demo-spare-0-0").1 hfound
  rw [objectNames_demo hnormal] at hmem
  revert hmem
  decide

end Demo

end ShardOperator
