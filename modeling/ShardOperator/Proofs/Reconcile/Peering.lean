import ShardOperator.Proofs.Files.Listing
import ShardOperator.Proofs.Reconcile.Accounting
import ShardOperator.Proofs.Reconcile.Idempotence

namespace ShardOperator

open Program Reconcile

variable {flavour : Flavour} {defaults : HostDefaults} {chi : InstallationResource}
  {i : Installation} {existing : List (Resource .statefulSet)}

namespace Reconcile

/-- The hosts that have a workload among those that were seen. -/
def known (existing : List (Resource .statefulSet)) (hosts : List Host) : List Host :=
  hosts.filter fun host => existing.any (·.anyName == host.address.workloadName)

/-- Before it is attended to, a host is a peer if it has been seen. -/
theorem includes_peersBefore_observed (host : Host) :
    peersBefore.includes { host with flags := observedFlags existing host } =
      existing.any (·.anyName == host.address.workloadName) := by
  unfold observedFlags
  rw [← List.isSome_find?]
  cases existing.find? (·.anyName == host.address.workloadName) with
  | none => rfl
  | some workload => exact includes_peersBefore rfl rfl

theorem filter_peersBefore : (observed i existing).hosts.filter peersBefore.includes =
    known existing (observed i existing).hosts := by
  refine List.filter_congr fun host hhost => ?_
  rw [hosts_observed] at hhost
  obtain ⟨before, -, rfl⟩ := List.mem_map.1 hhost
  exact includes_peersBefore_observed before

/-- No name is mentioned that is not the name of a workload. -/
theorem exists_workload_of_mem_known {hosts : List Host} {name : String}
    (h : name ∈ (flavour.mentions (known existing hosts)).map (·.address.workloadName)) :
    ∃ workload ∈ existing, workload.anyName = name := by
  obtain ⟨host, hhost, rfl⟩ := List.mem_map.1 h
  have hknown : host ∈ known existing hosts := by
    cases flavour with
    | server => exact (List.mem_append.1 hhost).elim id id
    | keeper => exact hhost
  obtain ⟨workload, hmem, hname⟩ := List.any_eq_true.1 (List.mem_filter.1 hknown).2
  exact ⟨workload, hmem, beq_iff_eq.1 hname⟩

end Reconcile

theorem Exclusion.includes_excludeIds {ids : List HostId} {host : Host} :
    (none.excludeIds ids).includes host = true ↔ host.id ∉ ids := by
  simp [includes, excludes, excludeIds, none, HostFlags.intersects]

namespace Ledger

/-- The hosts whose Service, ConfigMap and workload have all been brought about. -/
def attended {b : Blueprint} (l : Ledger b) : List Host := (l.hosts.filter Fate.isOk).map Fate.host

/-- Once the hosts have been attended to, those without a failure of their own are the peers. What
became of the orphans does not matter. -/
theorem filter_blamed_peers (l : Ledger (i.seenAs existing defaults flavour)) (aligned : i.Aligned)
    (hremoved : i.removed = []) (hfits : i.clusters.length ≤ HostId.noCluster) :
    (observed i existing).hosts.filter (Exclusion.none.excludeIds l.blamed).includes =
      l.attended := by
  rw [attended, ← show l.hosts.map Fate.host = (observed i existing).hosts from l.all_hosts,
    List.filter_map]
  refine congrArg _ (List.filter_congr fun f hf => Bool.eq_iff_iff.2 ?_)
  rw [Function.comp_apply, Exclusion.includes_excludeIds,
    l.id_mem_blamed_host aligned hremoved hfits hf, Bool.not_eq_false]

end Ledger

/-- Whoever answers the calls of a pass over an accepted resource, once it is told about the
workloads the common files name the hosts that have one of these. After all hosts and orphans have
been attended to, the common files name the hosts whose three objects are in place, whatever else
has failed. (There are fewer than `UInt64.size` clusters, so that no orphan has the id of a host.) -/
theorem pass_peers (hnormal : chi.normalize defaults = .ok i)
    (hfits : chi.spec.configuration.clusters.length < UInt64.size) (answer : Answers) :
    ∃ before listed later outcome,
      (pass flavour defaults chi).converse answer [] =
        (before ++ ⟨.list .statefulSet i.ns i.selector, listed⟩ :: later, outcome) ∧
      ∀ existing, listed = .ok existing →
        ∃ (l : Ledger (i.seenAs existing defaults flavour)) (e : Exclusion)
          (first between second rest : List Exchange),
          let b := i.seenAs existing defaults flavour
          later = first ++ (between ++ (second ++ rest)) ∧
          Chronicle chi.reference [⟨.apply (.ok (b.commonConfigMap peersBefore)), l.opening⟩]
            first ∧
          Chronicle chi.reference (l.hosts.flatMap b.upkeep ++ l.orphans.flatMap Fate.removal)
            between ∧
          Chronicle chi.reference [⟨.apply (.ok (b.commonConfigMap e)), l.closing⟩] second ∧
          b.Announces peersBefore (known existing b.installation.hosts) ∧
          b.Announces e l.attended ∧
          ∀ name ∈ Xml.valuesOf flavour.peerTag (flavour.peerPieces b.installation peersBefore),
            ∃ workload ∈ existing, workload.anyName = name := by
  obtain ⟨aligned, hlength⟩ := InstallationResource.aligned_normalize hnormal
  obtain ⟨before, listed, later, outcome, hlog, -, htold⟩ := pass_ledger hnormal answer
  refine ⟨before, listed, later, outcome, hlog, fun existing hlisted => ?_⟩
  obtain ⟨l, body, reply, hsaid, -, hlater⟩ := htold existing hlisted
  -- What is said falls into the opening, the hosts with the orphans, the closing, and the rest.
  simp only [Ledger.entries, List.append_assoc] at hsaid
  obtain ⟨first, _, rfl, hfirst, hsaid⟩ := hsaid.split
  rw [← List.append_assoc] at hsaid
  obtain ⟨between, _, rfl, hbetween, hsaid⟩ := hsaid.split
  obtain ⟨second, rest, rfl, hsecond, -⟩ := hsaid.split
  have announces := Blueprint.announces (i.seenAs existing defaults flavour)
    (aligned.observed existing)
  have hknown : (i.seenAs existing defaults flavour).Announces peersBefore
      (known existing (observed i existing).hosts) := by
    rw [← filter_peersBefore]
    exact announces peersBefore
  simp only [List.append_assoc] at hlater
  refine ⟨l, _, first, between, second, _, hlater, hfirst, hbetween, hsecond, hknown, ?_, ?_⟩
  · have hlast : i.clusters.length ≤ HostId.noCluster := by
      rw [hlength]
      exact Nat.le_of_lt_succ hfits
    rw [← l.filter_blamed_peers aligned (removed_normalize hnormal) hlast]
    exact announces _
  · intro name hname
    exact exists_workload_of_mem_known (hknown.named ▸ hname)

section Demo

/-- There is a workload for one of two hosts. -/
def oneOfTwo : List (Resource .statefulSet) := [.bare "chi-demo-main-0-0" .empty]

theorem known_demo {i : Installation} (h : (demo ["main", "spare"]).normalize {} = .ok i) :
    (known oneOfTwo (observed i oneOfTwo).hosts).map (·.address.workloadName) =
      ["chi-demo-main-0-0"] := by
  have hknown : ((demo ["main", "spare"]).normalize {}).map (fun i =>
      (known oneOfTwo (observed i oneOfTwo).hosts).map (·.address.workloadName)) =
        .ok ["chi-demo-main-0-0"] := by
    rfl
  rw [h] at hknown
  exact Except.ok.inj hknown

/-- Of two hosts, the one that has a workload is a peer from the start. -/
theorem pass_peers_found :
    ∃ i peers, (demo ["main", "spare"]).normalize {} = .ok i ∧
      (i.seenAs oneOfTwo {} .server).Announces peersBefore peers ∧
      peers.map (·.address.workloadName) = ["chi-demo-main-0-0"] := by
  obtain ⟨i, hnormal⟩ := exists_normalize_demo ["main", "spare"] rfl
  obtain ⟨before, listed, later, outcome, hsaid, htold⟩ :=
    @pass_peers .server {} (demo ["main", "spare"]) i hnormal (by decide)
      (unwilling oneOfTwo)
  obtain rfl := listed_unwilling hsaid
  obtain ⟨l, e, first, between, second, rest, -, -, -, -, hknown, -⟩ := htold _ rfl
  exact ⟨i, _, hnormal, hknown, known_demo hnormal⟩

end Demo

end ShardOperator
