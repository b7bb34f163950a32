import ShardOperator.Desired.Budgets
import ShardOperator.Desired.ConfigMaps
import ShardOperator.Desired.Services
import ShardOperator.Proofs.Desired.Claiming
import ShardOperator.Proofs.Desired.Versions
import ShardOperator.Proofs.Topology.Placement

namespace ShardOperator

namespace Json

/-- What is built around a value has the text of the value in its own, and besides it always the
same. -/
def Surrounds (build : Json → Json) : Prop :=
  ∃ front back : String, ∀ value, (build value).compact = front ++ value.compact ++ back

namespace Surrounds

variable {build inner : Json → Json}

theorem comp (h : Surrounds build) (h' : Surrounds inner) : Surrounds (build ∘ inner) := by
  obtain ⟨front, back, hbuild⟩ := h
  obtain ⟨front', back', hinner⟩ := h'
  refine ⟨front ++ front', back' ++ back, fun value => ?_⟩
  simp only [Function.comp_apply, hbuild, hinner, String.append_assoc]

/-- Where the texts of two values differ, so do the texts of what is built around them. -/
theorem compact_ne (h : Surrounds build) {v w : Json} (hne : v.compact ≠ w.compact) :
    (build v).compact ≠ (build w).compact := by
  obtain ⟨front, back, htext⟩ := h
  rw [htext, htext]
  exact fun heq => hne ((String.append_right_inj front).1 ((String.append_left_inj back).1 heq))

end Surrounds

theorem compactFields_cons (field : String × Json) (rest : List (String × Json)) :
    compactFields (field :: rest) = quoted field.1 ++ ":" ++ compact field.2 ++
      (if rest.isEmpty then "" else "," ++ compactFields rest) := by
  obtain ⟨key, value⟩ := field
  cases rest with
  | nil =>
    rw [compactFields]
    exact (String.append_empty).symm
  | cons next more =>
    rw [compactFields]
    · simp only [List.isEmpty_cons, Bool.false_eq_true, ↓reduceIte, String.append_assoc]
    · exact List.cons_ne_nil next more

theorem compactFields_append (before after : List (String × Json)) (key : String) :
    ∃ front back : String, ∀ value,
      compactFields (before ++ (key, value) :: after) = front ++ compact value ++ back := by
  induction before with
  | nil =>
    exact ⟨quoted key ++ ":", if after.isEmpty then "" else "," ++ compactFields after,
      fun value => compactFields_cons (key, value) after⟩
  | cons field rest ih =>
    obtain ⟨front, back, hrest⟩ := ih
    refine ⟨quoted field.1 ++ ":" ++ compact field.2 ++ "," ++ front, back, fun value => ?_⟩
    have hmore : (rest ++ (key, value) :: after).isEmpty = false := by simp
    rw [List.cons_append, compactFields_cons, hmore, hrest]
    simp only [Bool.false_eq_true, ↓reduceIte, String.append_assoc]

theorem surrounds_object (before after : List (String × Option Json)) (key : String) :
    Surrounds fun value => object (before ++ (key, some value) :: after) := by
  obtain ⟨front, back, hfields⟩ := compactFields_append
    (before.filterMap fun f => f.2.map (f.1, ·)) (after.filterMap fun f => f.2.map (f.1, ·)) key
  refine ⟨"\x7b" ++ front, back ++ "\x7d", fun value => ?_⟩
  simp only [object, List.filterMap_append, List.filterMap_cons, Option.map_some, compact, hfields,
    String.append_assoc]

end Json

/-- The same resource, stopped or not. -/
def InstallationResource.withStop (chi : InstallationResource) (stop : Bool) :
    InstallationResource :=
  { chi with spec := { chi.spec with stop } }

def Installation.withStop (i : Installation) (stop : Bool) : Installation := { i with stop }

/-- How many pods a workload has. -/
def podsOf (stop : Bool) : Int32 := if stop then 0 else 1

theorem compact_podsOf_ne {stop stop' : Bool} (h : stop ≠ stop') :
    (Json.ofInt32 (podsOf stop)).compact ≠ (Json.ofInt32 (podsOf stop')).compact := by
  have hne : (Json.ofInt32 0).compact ≠ (Json.ofInt32 1).compact := by decide
  cases stop with
  | false =>
    cases stop' with
    | false => exact absurd rfl h
    | true => exact hne.symm
  | true =>
    cases stop' with
    | false => exact hne
    | true => exact absurd rfl h

namespace InstallationResource

variable {defaults : HostDefaults}

/-- No check of a cluster asks whether the installation is stopped, and neither does its layout. -/
theorem addClusters_withStop (i : Installation) (stop : Bool) (specs : List ClusterSpec) :
    addClusters defaults (i.withStop stop) specs =
      (addClusters defaults i specs).map (·.withStop stop) := by
  induction specs generalizing i with
  | nil => rfl
  | cons spec rest ih =>
    have hknown : (i.withStop stop).clusters.any (·.name == spec.name) =
        i.clusters.any (·.name == spec.name) := rfl
    unfold addClusters
    by_cases hname : spec.name = ""
    · rw [if_pos hname, if_pos hname]
      rfl
    rw [if_neg hname, if_neg hname, hknown]
    cases i.clusters.any (·.name == spec.name) with
    | true => rfl
    | false =>
      let cluster := Cluster.ofSpec i spec i.clusters.length defaults
      change (cluster.checkNames.bind fun _ => addClusters defaults
        (Installation.withStop { i with clusters := i.clusters ++ [cluster] } stop) rest) =
          (cluster.checkNames.bind fun _ => addClusters defaults
            { i with clusters := i.clusters ++ [cluster] } rest).map (·.withStop stop)
      cases cluster.checkNames with
      | error e => rfl
      | ok _ => exact ih _

/-- A resource is accepted, or refused for a reason, whether it is to be stopped or not. -/
theorem normalize_withStop (chi : InstallationResource) (stop : Bool) (defaults : HostDefaults) :
    (chi.withStop stop).normalize defaults = (chi.normalize defaults).map (·.withStop stop) := by
  have hplace : (chi.withStop stop).metadata.ns = chi.metadata.ns := rfl
  unfold normalize
  rw [hplace]
  cases chi.metadata.ns with
  | none => rfl
  | some ns => exact addClusters_withStop (chi.frame ns) stop _

end InstallationResource

namespace StatefulSetSpec

/-- The specification for a number of pods. -/
def scaled (spec : StatefulSetSpec) (pods : Int32) : StatefulSetSpec :=
  { spec with replicas := some pods }

variable (spec : StatefulSetSpec) (pods : Int32)

theorem scaled_addClaims (ts : List VolumeClaimTemplate) :
    (spec.addClaims ts).scaled pods = (spec.scaled pods).addClaims ts := by
  induction ts generalizing spec with
  | nil => rfl
  | cons t rest ih => exact ih (spec.addClaim t)

theorem scaled_mountClaim (t : VolumeClaimTemplate) (path : String) :
    (spec.mountClaim t path).scaled pods = (spec.scaled pods).mountClaim t path := by
  have htemplate : (spec.scaled pods).template = spec.template := rfl
  unfold mountClaim
  rw [htemplate]
  cases spec.template.spec with
  | none => rfl
  | some pod =>
    dsimp only
    split <;> rfl

theorem scaled_mountClaims (mounts : ClaimPlaces) :
    (spec.mountClaims mounts).scaled pods = (spec.scaled pods).mountClaims mounts := by
  induction mounts generalizing spec with
  | nil => rfl
  | cons m rest ih =>
    rw [mountClaims_cons, ih, scaled_mountClaim]
    rfl

/-- The number of pods is written in one place. -/
theorem surrounds_pods : ∃ build, Json.Surrounds build ∧
    ∀ pods, (spec.scaled pods).toJson = build (.ofInt32 pods) := by
  simp only [toJson, scaled, Option.map_some]
  exact ⟨_, Json.surrounds_object [_, _, _, _] [_, _, _, _, _, _] "replicas", fun _ => rfl⟩

end StatefulSetSpec

namespace Resource

/-- What the version of an object is the digest of. -/
def content {kind : Kind} (object : Resource kind) : String := object.unversioned.toJson.compact

theorem content_stamp {kind : Kind} (object : Resource kind) :
    object.stamp.content = object.content := by
  unfold content
  rw [saysSame_iff_unversioned.1 object.saysSame_stamp]

theorem version?_stamp_eq {kind : Kind} (object : Resource kind) :
    object.stamp.version? = some (Sha256.shortHex object.stamp.content) := by
  rw [content_stamp]
  exact (object.annotation?_stamp versionAnnotation).trans (if_pos rfl)

/-- A workload without a version. -/
def ofSpec (metadata : ObjectMeta) (spec : StatefulSetSpec) : Resource .statefulSet :=
  ⟨metadata, { spec := some spec }⟩

theorem content_scaled_ne (metadata : ObjectMeta) (spec : StatefulSetSpec) {stop stop' : Bool}
    (h : stop ≠ stop') : (ofSpec metadata (spec.scaled (podsOf stop))).content ≠
      (ofSpec metadata (spec.scaled (podsOf stop'))).content := by
  obtain ⟨build, hbuild, hspec⟩ := spec.surrounds_pods
  have houter := Json.surrounds_object [("apiVersion", some (.str Kind.statefulSet.apiVersion)),
    ("kind", some (.str Kind.statefulSet.text)), ("metadata", some metadata.unversioned.toJson)]
    [("status", none)] "spec"
  have hcontent (pods : Int32) : (ofSpec metadata (spec.scaled pods)).unversioned.toJson =
      Json.object ([("apiVersion", some (.str Kind.statefulSet.apiVersion)),
        ("kind", some (.str Kind.statefulSet.text)),
        ("metadata", some metadata.unversioned.toJson)] ++
          ("spec", some (build (.ofInt32 pods))) :: [("status", none)]) := by
    rw [← hspec]
    rfl
  unfold content
  rw [hcontent, hcontent]
  exact (houter.comp hbuild).compact_ne (compact_podsOf_ne h)

/-- Two workloads that differ in the number of pods, and in the versions that tell it. -/
structure DiffersInPods (v w : Resource .statefulSet) (stop stop' : Bool) : Prop where
  body : ∃ spec : StatefulSetSpec, v.body = { spec := some (spec.scaled (podsOf stop)) } ∧
    w.body = { spec := some (spec.scaled (podsOf stop')) }
  metadata : v.metadata.unannotated = w.metadata.unannotated
  annotations : ∀ key, key ≠ versionAnnotation → v.annotation? key = w.annotation? key
  versions : v.version? = some (Sha256.shortHex v.content) ∧
    w.version? = some (Sha256.shortHex w.content)
  content : stop ≠ stop' → v.content ≠ w.content

theorem differsInPods_stamp (metadata : ObjectMeta) (spec : StatefulSetSpec)
    (stop stop' : Bool) :
    DiffersInPods (ofSpec metadata (spec.scaled (podsOf stop))).stamp
      (ofSpec metadata (spec.scaled (podsOf stop'))).stamp stop stop' := by
  have hv := saysSame_stamp (ofSpec metadata (spec.scaled (podsOf stop)))
  have hw := saysSame_stamp (ofSpec metadata (spec.scaled (podsOf stop')))
  refine ⟨⟨spec, hv.body, hw.body⟩, hv.metadata.trans hw.metadata.symm, fun key hkey => ?_,
    ⟨version?_stamp_eq _, version?_stamp_eq _⟩, fun h => ?_⟩
  · exact (hv.annotations key hkey).trans (hw.annotations key hkey).symm
  · rw [content_stamp, content_stamp]
    exact content_scaled_ne metadata spec h

end Resource

namespace Blueprint

def withStop (b : Blueprint) (stop : Bool) : Blueprint :=
  { b with installation := b.installation.withStop stop }

theorem workloadSpec_withStop (b : Blueprint) (stop : Bool) (host : Host) :
    (b.withStop stop).workloadSpec host = (b.workloadSpec host).scaled (podsOf stop) := by
  rw [workloadSpec_eq, workloadSpec_eq, StatefulSetSpec.scaled_mountClaims,
    StatefulSetSpec.scaled_addClaims]
  rfl

/-- Two blueprints that make the same of everything but of the pods that a workload has. -/
structure DiffersInStop (a b : Blueprint) : Prop where
  clusters : a.installation.clusters = b.installation.clusters
  installationService : a.installationService = b.installationService
  clusterService (c : Cluster) : a.clusterService? c = b.clusterService? c
  shardService (c : Cluster) (shard : Shard) : a.shardService? c shard = b.shardService? c shard
  hostService (host : Host) : a.hostService host = b.hostService host
  commonConfigMap (e : Exclusion) : a.commonConfigMap e = b.commonConfigMap e
  usersConfigMap : a.usersConfigMap = b.usersConfigMap
  hostConfigMap (host : Host) : a.hostConfigMap host = b.hostConfigMap host
  budget (c : Cluster) : a.budget c = b.budget c
  workload (host : Host) : (a.workload host).DiffersInPods (b.workload host)
    a.installation.stop b.installation.stop

/-- The files of neither kind of server tell whether the installation is stopped. -/
theorem files_withStop (flavour : Flavour) (i : Installation) (stop : Bool) :
    flavour.commonFiles (i.withStop stop) = flavour.commonFiles i ∧
      flavour.usersFiles (i.withStop stop) = flavour.usersFiles i ∧
      flavour.hostFiles (i.withStop stop) = flavour.hostFiles i := by
  cases flavour with
  | server => exact ⟨rfl, rfl, rfl⟩
  | keeper => exact ⟨rfl, rfl, rfl⟩

/-- The metadata of a workload before it has a version. -/
def workloadMetadata (b : Blueprint) (host : Host) : ObjectMeta :=
  { ObjectMeta.generated host.address.workloadName host.address.ns host.address.labels with
    ownerReferences := (b.owner?.map ([·])).or none }

theorem workload_withStop (b : Blueprint) (stop : Bool) (host : Host) :
    (b.withStop stop).workload host = (Resource.ofSpec (b.workloadMetadata host)
      ((b.workloadSpec host).scaled (podsOf stop))).stamp := by
  unfold workload
  rw [workloadSpec_withStop]
  rfl

theorem configMap_withStop (b : Blueprint) (stop : Bool) (name ns : String) (labels : Labels)
    {files files' : FileSet} (h : files' = files) :
    b.configMap name ns labels files = (b.withStop stop).configMap name ns labels files' := by
  rw [h]
  rfl

theorem differsInStop_withStop (b : Blueprint) (stop : Bool) :
    b.DiffersInStop (b.withStop stop) where
  clusters := rfl
  installationService := rfl
  clusterService _ := rfl
  shardService _ _ := rfl
  hostService _ := rfl
  commonConfigMap e := by
    have hfiles := (files_withStop b.flavour b.installation stop).1
    exact b.configMap_withStop stop _ _ _ (congrFun hfiles e)
  usersConfigMap := by
    have hfiles := (files_withStop b.flavour b.installation stop).2.1
    exact b.configMap_withStop stop _ _ _ hfiles
  hostConfigMap host := by
    have hfiles := (files_withStop b.flavour b.installation stop).2.2
    exact b.configMap_withStop stop _ _ _ (congrFun hfiles host)
  budget _ := rfl
  workload host := by
    have hown : b.workload host = (Resource.ofSpec (b.workloadMetadata host)
        ((b.workloadSpec host).scaled (podsOf b.installation.stop))).stamp :=
      b.workload_withStop b.installation.stop host
    rw [hown, workload_withStop]
    exact Resource.differsInPods_stamp ..

end Blueprint

namespace InstallationResource

/-- Whether an installation is stopped decides how many pods its workloads have, and nothing else.
The resource is accepted or refused all the same, and of what is made for it, only the workloads
differ: in the number of their pods, and in the versions, which are digests of different texts. -/
theorem stop_scales_workloads (chi : InstallationResource) (stop : Bool) (defaults : HostDefaults) :
    (chi.withStop stop).normalize defaults = (chi.normalize defaults).map (·.withStop stop) ∧
      ∀ i, chi.normalize defaults = .ok i → i.stop = chi.spec.stop ∧
        ∀ (given : HostDefaults) (flavour : Flavour),
          Blueprint.DiffersInStop ⟨i, given, flavour⟩ ⟨i.withStop stop, given, flavour⟩ := by
  refine ⟨chi.normalize_withStop stop defaults, fun i h => ⟨?_, fun given flavour => ?_⟩⟩
  · obtain ⟨-, ns, -, hframe⟩ := normalize_spec h
    rw [hframe]
    rfl
  · exact Blueprint.differsInStop_withStop ⟨i, given, flavour⟩ stop

/-- Two shards of one host each. -/
def twoShards : InstallationResource where
  metadata := { ns := some "prod", name := some "demo" }
  spec := { configuration := {
    clusters := [{ name := "main", layout := { shardsCount := some 2 } }] } }

theorem stop_scales_workloads_two_shards :
    ∃ i, twoShards.normalize {} = .ok i ∧ i.hostsCount = 2 ∧
      (twoShards.withStop true).normalize {} = .ok (i.withStop true) ∧
      ∀ host : Host, ∃ spec : StatefulSetSpec,
        ((Blueprint.mk i {} .server).workload host).body.spec = some (spec.scaled 1) ∧
        ((Blueprint.mk (i.withStop true) {} .server).workload host).body.spec =
          some (spec.scaled 0) ∧
        ((Blueprint.mk i {} .server).workload host).content ≠
          ((Blueprint.mk (i.withStop true) {} .server).workload host).content := by
  obtain ⟨i, hi, hcount⟩ : ∃ i, twoShards.normalize {} = .ok i ∧ i.hostsCount = 2 :=
    ⟨_, rfl, by decide⟩
  obtain ⟨hsame, hbuilt⟩ := stop_scales_workloads twoShards true {}
  obtain ⟨hstop, hbuilt⟩ := hbuilt i hi
  have hrunning : i.stop = false := hstop
  refine ⟨i, hi, hcount, by rw [hsame, hi]; rfl, fun host => ?_⟩
  obtain ⟨⟨spec, hspec, hspec'⟩, -, -, -, hcontent⟩ := (hbuilt {} .server).workload host
  rw [hrunning] at hspec hcontent
  exact ⟨spec, congrArg (·.spec) hspec, congrArg (·.spec) hspec', hcontent Bool.false_ne_true⟩

end InstallationResource

end ShardOperator
