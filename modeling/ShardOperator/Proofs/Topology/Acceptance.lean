import Mathlib.Data.List.Nodup
import ShardOperator.Proofs.Data.Verdict
import ShardOperator.Proofs.Topology.Matrix

namespace ShardOperator

/-- A name that is given counts unless it is empty. -/
def givenName (name : Option String) (otherwise : String) : String :=
  (name.filter (· ≠ "")).getD otherwise

theorem declaredName_eq (name : Option String) (otherwise : String) :
    declaredName name otherwise = givenName name otherwise := by
  unfold declaredName givenName
  split
  · rfl
  · rfl
  · next given hne =>
    have hkept : (some given).filter (· ≠ "") = some given :=
      Option.filter_eq_some_iff.2 ⟨rfl, decide_eq_true hne⟩
    rw [hkept, Option.getD_some]

namespace LayoutSpec

def shardName (l : LayoutSpec) (s : Nat) : String :=
  givenName (if l.ByShards then l.shards[s]?.bind (·.name) else none) (toString s)

def replicaName (l : LayoutSpec) (r : Nat) : String :=
  givenName (if l.ByShards then none else l.replicas[r]?.bind (·.name)) (toString r)

/-- A host without a name of its own joins those of its shard and replica. -/
def hostName (l : LayoutSpec) (s r : Nat) : String :=
  givenName (l.hostSpec s r).name (l.shardName s ++ "-" ++ l.replicaName r)

def HasShard (l : LayoutSpec) (s : Nat) : Prop := ∃ r, l.Covers s r

def HasReplica (l : LayoutSpec) (r : Nat) : Prop := ∃ s, l.Covers s r

/-- Shards, replicas and hosts are told apart by their names, each kind for itself. -/
structure WellNamed (l : LayoutSpec) : Prop where
  shards : ∀ s t, l.HasShard s → l.HasShard t → l.shardName s = l.shardName t → s = t
  replicas : ∀ r q, l.HasReplica r → l.HasReplica q → l.replicaName r = l.replicaName q → r = q
  hosts : ∀ s r t q, l.Covers s r → l.Covers t q → l.hostName s r = l.hostName t q →
    s = t ∧ r = q

end LayoutSpec

/-- There is a namespace, clusters have names of their own, and so has all that is in a cluster. -/
structure InstallationResource.WellNamed (chi : InstallationResource) : Prop where
  namespaced : chi.metadata.ns.isSome = true
  named : ∀ spec ∈ chi.spec.configuration.clusters, spec.name ≠ ""
  clusters : (chi.spec.configuration.clusters.map (·.name)).Nodup
  layouts : ∀ spec ∈ chi.spec.configuration.clusters, spec.layout.WellNamed

namespace Cluster

section Checks

theorem verdict_checkNames (c : Cluster) :
    Verdict c.installation
      ((c.shards.map (·.name)).Nodup ∧ (c.replicas.map (·.name)).Nodup ∧
        (c.hosts.map (·.name)).Nodup)
      c.checkNames := by
  unfold checkNames
  dsimp only
  cases hshards : repeated? (c.shards.map (·.name)) with
  | some name =>
    refine .refused (fun h => ?_) _
    rw [repeated?_eq_none_iff.2 h.1] at hshards
    cases hshards
  | none =>
    cases hreplicas : repeated? (c.replicas.map (·.name)) with
    | some name =>
      refine .refused (fun h => ?_) _
      rw [repeated?_eq_none_iff.2 h.2.1] at hreplicas
      cases hreplicas
    | none =>
      cases hhosts : repeated? (c.hosts.map (·.name)) with
      | some name =>
        refine .refused (fun h => ?_) _
        rw [repeated?_eq_none_iff.2 h.2.2] at hhosts
        cases hhosts
      | none =>
        exact .accepted ⟨repeated?_eq_none_iff.1 hshards, repeated?_eq_none_iff.1 hreplicas,
          repeated?_eq_none_iff.1 hhosts⟩ ()

/-- Where it is known what stands at each index, no item stands twice just where the indices are
told apart by it. -/
theorem nodup_iff_of_getElem? {α : Type} {items : List α} {present : Nat → Prop} {item : Nat → α}
    (h : ∀ n x, items[n]? = some x ↔ present n ∧ x = item n) :
    items.Nodup ↔ ∀ m n, present m → present n → item m = item n → m = n := by
  constructor
  · intro nodup m n hm hn heq
    have hfound := (h m _).2 ⟨hm, rfl⟩
    have hother := (h n _).2 ⟨hn, rfl⟩
    obtain ⟨hlt, -⟩ := List.getElem?_eq_some_iff.1 hfound
    refine (List.getElem?_inj hlt nodup).1 ?_
    rw [hfound, hother, heq]
  · intro inj
    refine List.pairwise_iff_getElem.2 fun m n hm hn hlt heq => ?_
    obtain ⟨hpresent, hitem⟩ := (h m _).1 (List.getElem?_eq_getElem hm)
    obtain ⟨hpresent', hitem'⟩ := (h n _).1 (List.getElem?_eq_getElem hn)
    have hsame := inj m n hpresent hpresent' (by rw [← hitem, ← hitem', heq])
    omega

end Checks

section Names

variable {i : Installation} {spec : ClusterSpec} {index : Nat} {defaults : HostDefaults}

theorem name_shardAt (s : Nat) :
    ((unlaid i spec index).shardAt spec.layout s).name = spec.layout.shardName s := by
  unfold shardAt LayoutSpec.shardName
  by_cases h : spec.layout.ByShards
  · simp only [if_pos h, declaredShard, Shard.resolve, declaredName_eq]
    cases spec.layout.shards[s]? <;> rfl
  · simp only [if_neg h]
    rfl

theorem name_replicaAt (r : Nat) :
    ((unlaid i spec index).replicaAt spec.layout r).name = spec.layout.replicaName r := by
  unfold replicaAt LayoutSpec.replicaName
  by_cases h : spec.layout.ByShards
  · simp only [if_pos h]
    rfl
  · simp only [if_neg h, declaredReplica, Replica.resolve, declaredName_eq]
    cases spec.layout.replicas[r]? <;> rfl

theorem shards_ofSpec {s : Nat} {name : String} :
    ((ofSpec i spec index defaults).shards.map (·.name))[s]? = some name ↔
      spec.layout.HasShard s ∧ name = spec.layout.shardName s := by
  rw [List.getElem?_map, Option.map_eq_some_iff, ← name_shardAt]
  simp only [shard_ofSpec]
  constructor
  · rintro ⟨_, ⟨h, rfl⟩, rfl⟩
    exact ⟨h, rfl⟩
  · rintro ⟨h, rfl⟩
    exact ⟨_, ⟨h, rfl⟩, rfl⟩

theorem replicas_ofSpec {r : Nat} {name : String} :
    ((ofSpec i spec index defaults).replicas.map (·.name))[r]? = some name ↔
      spec.layout.HasReplica r ∧ name = spec.layout.replicaName r := by
  rw [List.getElem?_map, Option.map_eq_some_iff, ← name_replicaAt]
  simp only [replica_ofSpec]
  constructor
  · rintro ⟨_, ⟨h, rfl⟩, rfl⟩
    exact ⟨h, rfl⟩
  · rintro ⟨h, rfl⟩
    exact ⟨_, ⟨h, rfl⟩, rfl⟩

theorem name_declaredHost (s r : Nat) :
    (declaredHost i spec index defaults s r).name = spec.layout.hostName s r := by
  unfold declaredHost LayoutSpec.hostName LayoutSpec.hostSpec LayoutSpec.shardName
    LayoutSpec.replicaName
  by_cases h : spec.layout.ByShards
  · simp only [if_pos h, hostByShards, freshHost, Host.resolve, Host.name, declaredShard,
      Shard.resolve, declaredName_eq]
    cases spec.layout.shards[s]? <;> rfl
  · simp only [if_neg h, hostByReplicas, freshHost, Host.resolve, Host.name, declaredReplica,
      Replica.resolve, declaredName_eq]
    cases spec.layout.replicas[r]? <;> rfl

/-- No two hosts of a cluster have a name in common just where names tell places apart. -/
theorem nodup_hosts_ofSpec :
    ((ofSpec i spec index defaults).hosts.map (·.name)).Nodup ↔
      ∀ s r t q, spec.layout.Covers s r → spec.layout.Covers t q →
        spec.layout.hostName s r = spec.layout.hostName t q → s = t ∧ r = q := by
  have aligned := aligned_ofSpec i spec index defaults
  have nodup : (ofSpec i spec index defaults).hosts.Nodup :=
    aligned.pairwise_hosts.imp fun hne heq => hne (congrArg Host.id heq)
  have hplace {s r : Nat} (h : spec.layout.Covers s r) :
      (ofSpec i spec index defaults).host? s r = some (declaredHost i spec index defaults s r) :=
    host?_ofSpec.2 ⟨h, rfl⟩
  rw [List.nodup_map_iff_inj_on nodup]
  constructor
  · intro inj s r t q hsr htq hname
    have ha := hplace hsr
    have hb := hplace htq
    have heq := inj _ (mem_hosts_iff.2 ⟨s, r, ha⟩) _ (mem_hosts_iff.2 ⟨t, q, hb⟩)
      (by rw [name_declaredHost, name_declaredHost, hname])
    have hid := congrArg Host.id heq
    rw [aligned.place ha, aligned.place hb] at hid
    injection hid with _ hst hrq
    exact ⟨hst, hrq⟩
  · intro inj a ha b hb hname
    obtain ⟨s, r, ha⟩ := mem_hosts_iff.1 ha
    obtain ⟨t, q, hb⟩ := mem_hosts_iff.1 hb
    obtain ⟨hsr, rfl⟩ := host?_ofSpec.1 ha
    obtain ⟨htq, rfl⟩ := host?_ofSpec.1 hb
    rw [name_declaredHost, name_declaredHost] at hname
    obtain ⟨rfl, rfl⟩ := inj s r t q hsr htq hname
    rfl

theorem verdict_ofSpec (i : Installation) (spec : ClusterSpec) (index : Nat)
    (defaults : HostDefaults) :
    Verdict i.name spec.layout.WellNamed (ofSpec i spec index defaults).checkNames := by
  have hverdict := verdict_checkNames (ofSpec i spec index defaults)
  rw [(ofSpec_placed i spec index defaults).2.1, nodup_iff_of_getElem? fun _ _ => shards_ofSpec,
    nodup_iff_of_getElem? fun _ _ => replicas_ofSpec, nodup_hosts_ofSpec] at hverdict
  exact hverdict.congr ⟨fun h => ⟨h.1, h.2.1, h.2.2⟩, fun h => ⟨h.shards, h.replicas, h.hosts⟩⟩

end Names

end Cluster

namespace InstallationResource

/-- Clusters are added just where their names differ from those before them and among themselves,
and each of them is well named. -/
theorem verdict_addClusters (defaults : HostDefaults) (specs : List ClusterSpec) {i : Installation}
    (htaken : (i.clusters.map (·.name)).Nodup) :
    Verdict i.name
      ((i.clusters.map (·.name) ++ specs.map (·.name)).Nodup ∧
        ∀ spec ∈ specs, spec.name ≠ "" ∧ spec.layout.WellNamed)
      (addClusters defaults i specs) := by
  induction specs generalizing i with
  | nil =>
    refine .accepted ⟨?_, fun spec hspec => absurd hspec List.not_mem_nil⟩ i
    rwa [List.map_nil, List.append_nil]
  | cons spec rest ih =>
    have hmem : spec ∈ spec :: rest := List.mem_cons_self ..
    unfold addClusters
    by_cases hname : spec.name = ""
    · rw [if_pos hname]
      exact .refused (fun h => (h.2 spec hmem).1 hname) _
    rw [if_neg hname]
    cases hany : i.clusters.any (·.name == spec.name) with
    | true =>
      obtain ⟨c, hc, heq⟩ := List.any_eq_true.1 hany
      refine .refused (fun h => ?_) _
      refine (List.nodup_append.1 h.1).2.2 c.name (List.mem_map_of_mem hc) spec.name ?_
        (beq_iff_eq.1 heq)
      exact List.mem_map_of_mem hmem
    | false =>
      rw [if_neg Bool.false_ne_true]
      have hfresh : spec.name ∉ i.clusters.map (·.name) := by simpa using hany
      let cluster := Cluster.ofSpec i spec i.clusters.length defaults
      have hnames : (i.clusters ++ [cluster]).map (·.name) =
          i.clusters.map (·.name) ++ [spec.name] := by
        rw [List.map_append, List.map_singleton, Cluster.name_ofSpec]
      have hextended : (i.clusters.map (·.name) ++ [spec.name]).Nodup :=
        List.nodup_append.2 ⟨htaken, List.nodup_singleton _, fun a ha b hb heq =>
          hfresh (List.mem_singleton.1 hb ▸ heq ▸ ha)⟩
      have hcheck := Cluster.verdict_ofSpec i spec i.clusters.length defaults
      have hrest := ih (i := { i with clusters := i.clusters ++ [cluster] }) (hnames ▸ hextended)
      refine (hcheck.bind fun _ => hrest).congr ?_
      rw [hnames, List.append_assoc, List.singleton_append, List.map_cons, List.forall_mem_cons,
        and_iff_right hname, and_left_comm]

theorem verdict_normalize (chi : InstallationResource) (defaults : HostDefaults) :
    Verdict chi.anyName chi.WellNamed (chi.normalize defaults) := by
  unfold normalize
  split
  · next hns => exact .refused (fun h => by simpa [hns] using h.namespaced) _
  · next ns hns =>
    have start : ((chi.frame ns).clusters.map (·.name)).Nodup := List.nodup_nil
    refine (verdict_addClusters defaults chi.spec.configuration.clusters start).congr ?_
    constructor
    · rintro ⟨nodup, hclusters⟩
      exact ⟨by rw [hns]; rfl, fun spec hspec => (hclusters spec hspec).1, nodup,
        fun spec hspec => (hclusters spec hspec).2⟩
    · intro h
      exact ⟨h.clusters, fun spec hspec => ⟨h.named spec hspec, h.layouts spec hspec⟩⟩

/-- Normalization accepts just the well-named resources, whatever the defaults are. Any other is
refused with a validation error that tells the resource. -/
theorem normalize_accepts_iff (chi : InstallationResource) (defaults : HostDefaults) :
    ((∃ i, chi.normalize defaults = .ok i) ↔ chi.WellNamed) ∧
      ((∃ problem, chi.normalize defaults = .error (.invalid chi.anyName problem)) ↔
        ¬chi.WellNamed) := by
  have hverdict := verdict_normalize chi defaults
  exact ⟨hverdict.ok_iff, hverdict.error_iff⟩

/-- The second host is given the name that the first has by default. -/
example : normalize {
    metadata := { ns := some "ns", name := some "demo" }
    spec := { configuration := { clusters := [{
      name := "main"
      layout := { shards := [{ replicas := [{}, { name := some "0-0" }] }] } }] } } } {} =
    .error (.invalid "demo" "duplicate host name '0-0' in cluster 'main'") :=
  rfl

end InstallationResource

end ShardOperator
