import ShardOperator.Proofs.Desired.Objects

namespace ShardOperator

/-- What a request writes satisfies a condition. -/
def Request.Writes (P : {kind : Kind} → Resource kind → Prop) : Request → Prop
  | .create object | .update object => P object
  | .get .. | .delete .. | .list .. | .writeStatus .. | .publish .. | .dropDnsCache _
  | .forgetHost _ => True

/-- The event is about a single call, and not about a pass as a whole. -/
inductive Event.OfCall : Event → Prop where
  | completed (verb : Verb) (kind : Kind) (ns name : String) :
      OfCall (.callCompleted verb kind ns name)
  | failed (verb : Verb) (e : OperatorError) : OfCall (.callFailed verb e)

namespace Reconcile

open Program

section Attempts

variable {allowed : Request → Prop} {regarding : Regarding}

theorem only_createObject {kind : Kind} {desired : Resource kind} {plan : Plan}
    (hcreate : allowed (.create desired))
    (hpublish : ∀ event, event.OfCall → allowed (.publish regarding event)) :
    Only allowed (createObject regarding desired plan) := by
  refine (only_call hcreate).bind fun reply => ?_
  cases reply with
  | ok _ => exact (only_call (hpublish _ (.completed ..))).bind fun _ => only_pure _
  | error e => exact (only_call (hpublish _ (.failed ..))).bind fun _ => only_pure _

theorem only_recreateObject {kind : Kind} {desired : Resource kind} {e : OperatorError}
    (hcreate : allowed (.create desired))
    (hdelete : allowed (.delete kind desired.ns desired.name))
    (hpublish : ∀ event, event.OfCall → allowed (.publish regarding event)) :
    Only allowed (recreateObject regarding desired e) :=
  (only_call (hpublish _ (.failed ..))).bind fun _ => (only_call hdelete).bind fun _ =>
    only_createObject hcreate hpublish

/-- An object is read, and then the object itself or a migrated one is written. -/
theorem only_reconcileObject {kind : Kind} {desired : Resource kind}
    (hget : allowed (.get kind desired.ns desired.name))
    (hcreate : allowed (.create desired))
    (hupdate : ∀ {current migrated : Resource kind}, current.migrate desired = .ok migrated →
      allowed (.update migrated))
    (hdelete : allowed (.delete kind desired.ns desired.name))
    (hpublish : ∀ event, event.OfCall → allowed (.publish regarding event)) :
    Only allowed (reconcileObject regarding desired) := by
  refine (only_call hget).bind fun reply => ?_
  cases reply with
  | ok current =>
    change Only allowed (ite _ _ _)
    split
    · exact only_pure _
    · unfold replaceObject
      split
      · exact only_recreateObject hcreate hdelete hpublish
      · next migrated hm =>
        refine (only_call (hupdate hm)).bind fun reply => ?_
        cases reply with
        | ok _ => exact (only_call (hpublish _ (.completed ..))).bind fun _ => only_pure _
        | error e =>
          change Only allowed (ite _ _ _)
          split
          · exact only_pure _
          · exact only_recreateObject hcreate hdelete hpublish
  | error e =>
    change Only allowed (ite _ _ _)
    split
    · exact only_createObject hcreate hpublish
    · split
      · exact only_pure _
      · exact (only_call (hpublish _ (.failed ..))).bind fun _ => only_pure _

theorem only_deleteObject {kind : Kind} {ns name : String}
    (hdelete : allowed (.delete kind ns name))
    (hpublish : ∀ event, event.OfCall → allowed (.publish regarding event)) :
    Only allowed (deleteObject regarding kind ns name) := by
  refine (only_call hdelete).bind fun reply => ?_
  cases reply with
  | ok _ => exact (only_call (hpublish _ (.completed ..))).bind fun _ => only_pure _
  | error e =>
    change Only allowed (ite _ _ _)
    split
    · exact only_pure _
    · exact (only_call (hpublish _ (.failed ..))).bind fun _ => only_pure _

theorem only_dropDnsCaches {i : Installation} {report : PassReport}
    (hdrop : ∀ hostname, allowed (.dropDnsCache hostname)) :
    Only allowed (dropDnsCaches i report) := by
  unfold dropDnsCaches
  induction i.hosts.filter _ with
  | nil => exact only_pure _
  | cons host rest ih =>
    exact ((only_call (hdrop _)).bind fun _ => only_pure _).bind fun _ => ih

end Attempts

end Reconcile

namespace Blueprint

open Program Reconcile

variable {b : Blueprint} {regarding : Regarding} {report : PassReport}

/-- Whatever a pass does about the objects of an installation, its requests are allowed. -/
structure Permits (b : Blueprint) (regarding : Regarding) (allowed : Request → Prop) : Prop where
  common (e : Exclusion) : Only allowed (reconcileObject regarding (b.commonConfigMap e))
  object {kind : Kind} {desired : Resource kind} (h : desired ∈ b.objects kind) :
    Only allowed (reconcileObject regarding desired)
  delete (kind : Kind) (ns name : String) : Only allowed (deleteObject regarding kind ns name)
  list (kind : Kind) : allowed (.list kind b.installation.ns b.installation.selector)
  dropDnsCache (hostname : String) : allowed (.dropDnsCache hostname)
  forgetHost (hostname : String) : allowed (.forgetHost hostname)

section Permits

variable {allowed : Request → Prop} (permits : b.Permits regarding allowed)

include permits

theorem only_reconcileCommon (e : Exclusion) :
    Only allowed (reconcileCommon b regarding e report) :=
  (permits.common e).bind fun _ => only_pure _

theorem only_removeHost (host : Host) : Only allowed (removeHost regarding report host) := by
  refine (permits.delete _ _ _).bind fun workload => (permits.delete _ _ _).bind fun service =>
    (permits.delete _ _ _).bind fun configMap => ?_
  change Only allowed (ite _ _ _)
  split
  · exact (only_call (permits.forgetHost _)).bind fun _ => only_pure _
  · exact only_pure _

theorem only_sweepKind (kind : Kind) : Only allowed (sweepKind b regarding report kind) := by
  refine (only_call (permits.list kind)).bind fun reply => ?_
  cases reply with
  | error e => exact only_pure _
  | ok existing =>
    refine only_foldlM fun acc object _ => ?_
    refine (permits.delete _ _ _).bind fun reply => ?_
    cases reply <;> exact only_pure _

theorem only_reconcileBuilt {wanted : Outcome (Resource .service)}
    (h : ∀ desired, wanted = .ok desired → desired ∈ b.objects .service) :
    Only allowed (reconcileBuilt regarding wanted) := by
  cases wanted with
  | error e => exact only_pure _
  | ok desired => exact permits.object (h desired rfl)

theorem only_reconcileWanted {wanted : Outcome (Option (Resource .service))}
    (h : ∀ desired, wanted = .ok (some desired) → desired ∈ b.objects .service) :
    Only allowed (reconcileWanted regarding report wanted) := by
  unfold reconcileWanted
  split
  · next desired => exact (permits.object (h desired rfl)).bind fun _ => only_pure _
  · exact only_pure _
  · exact only_pure _

theorem only_reconcileHost {host : Host} (hhost : host ∈ b.installation.hosts) :
    Only allowed (reconcileHost b regarding report host) := by
  have hworkload : b.workload host ∈ b.objects .statefulSet := List.mem_map_of_mem hhost
  refine (only_reconcileBuilt permits fun desired h => mem_objects_hostService hhost h).bind
    fun service => (permits.object (mem_objects_hostConfigMap hhost)).bind fun configMap =>
    (permits.object hworkload).bind fun workload => ?_
  change Only allowed (ite _ _ _)
  split <;> exact only_pure _

theorem only_reconcileCluster {c : Cluster} (hc : c ∈ b.installation.clusters) :
    Only allowed (reconcileCluster b regarding report c) := by
  have hbudget : b.budget c ∈ b.objects .disruptionBudget := List.mem_map_of_mem hc
  exact (only_reconcileWanted permits fun desired h => mem_objects_clusterService hc h).bind
    fun _ => (only_foldlM fun acc shard hshard =>
      only_reconcileWanted permits fun desired h => mem_objects_shardService hc hshard h).bind
    fun _ => (permits.object hbudget).bind fun _ => only_pure _

theorem only_reconcileShared : Only allowed (reconcileShared b regarding report) :=
  (permits.object mem_objects_usersConfigMap).bind fun _ =>
    (only_reconcileBuilt permits fun _ h => mem_objects_installationService h).bind fun _ =>
    only_foldlM fun _ _ hc => only_reconcileCluster permits hc

theorem only_converge : Only allowed (converge b regarding) := by
  refine (only_reconcileCommon permits _).bind fun _ =>
    (only_foldlM fun acc host hhost => only_reconcileHost permits hhost).bind fun _ =>
    (only_foldlM fun acc host _ => only_removeHost permits host).bind fun _ =>
    (only_reconcileCommon permits _).bind fun _ => (only_reconcileShared permits).bind fun _ =>
    (only_foldlM fun acc kind _ => only_sweepKind permits kind).bind fun report => ?_
  change Only allowed (ite _ _ _)
  split
  · exact (only_dropDnsCaches permits.dropDnsCache).bind fun _ => only_pure _
  · exact only_pure _

end Permits

/-- What a request writes is an object of the installation with a name that is wanted. -/
def Owns (b : Blueprint) (request : Request) : Prop :=
  request.Writes fun {kind} object =>
    Belongs b.installation.identity object ∧ object.name ∈ b.installation.objectNames kind

theorem only_reconcile {kind : Kind} {name : String} {desired : Resource kind}
    (h : b.Built name desired) (hname : name ∈ b.installation.objectNames kind) :
    Only b.Owns (reconcileObject regarding desired) := by
  rw [← h.name] at hname
  refine only_reconcileObject trivial ⟨h.belongs, hname⟩ (fun hm => ⟨h.belongs.migrate hm, ?_⟩)
    trivial fun _ _ => trivial
  rw [Resource.name_migrate hm]
  exact hname

/-- Whatever a pass writes is an object of the installation with a name that is wanted. -/
theorem permits_owns (placed : b.installation.Placed)
    (spare : b.installation.templates.SpareLabels) : b.Permits regarding b.Owns where
  common e := only_reconcile (built_commonConfigMap e) (List.mem_cons_self ..)
  object h := by
    obtain ⟨name, hname, hbuilt⟩ := built_of_mem_objects placed spare h
    exact only_reconcile hbuilt hname
  delete _ _ _ := only_deleteObject trivial fun _ _ => trivial
  list _ := trivial
  dropDnsCache _ := trivial
  forgetHost _ := trivial

end Blueprint

end ShardOperator
