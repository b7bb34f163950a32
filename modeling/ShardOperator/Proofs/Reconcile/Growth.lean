import ShardOperator.Proofs.Desired.Flagged
import ShardOperator.Proofs.Reconcile.Idle
import ShardOperator.Proofs.Topology.Growth

namespace ShardOperator

open Program Simulation Reconcile

namespace Blueprint

/-- From both blueprints the same Service, ConfigMap and workload are built for a host, each with
the same version. -/
structure SameFor (a b : Blueprint) (host : Host) : Prop where
  service : b.hostService host = a.hostService host
  configMap : b.hostConfigMap host = a.hostConfigMap host
  workload : b.workload host = a.workload host

variable {i j : Installation}

/-- The clusters of an installation are not read for the objects of one host, as long as its files
are those of a server. -/
theorem sameFor_of_frame
    (hframe : j = { i with generation := j.generation, clusters := j.clusters })
    (defaults : HostDefaults) (host : Host) :
    SameFor ⟨i, defaults, .server⟩ ⟨j, defaults, .server⟩ host := by
  rw [hframe]
  refine ⟨rfl, rfl, ?_⟩
  unfold workload workloadSpec workloadFrame pod
  rfl

variable {a b : Blueprint} {host : Host}

theorem HostStands.observe {service : Resource .service} {s : Stores}
    (standing : a.HostStands host service s) (same : a.SameFor b host)
    (existing : List (Resource .statefulSet)) :
    (b.observe existing).HostStands (seen existing host) service s := by
  obtain ⟨hbuilt, hservice, hconfigMap, hworkload⟩ := standing
  refine ⟨?_, hservice, ?_, ?_⟩
  · rw [hostService_observe, same.service]
    exact hbuilt
  · rw [hostConfigMap_observe, same.configMap]
    exact hconfigMap
  · rw [workload_observe, same.workload]
    exact hworkload

end Blueprint

/-- Where an installation grows, each of its hosts keeps its place, and the objects that are built
for it stay the same with their versions. Where they stand already, a pass over the grown
installation reads them and leaves them alone, whatever it has observed. -/
theorem growth_spares_hosts {chi grown : InstallationResource} {defaults : HostDefaults}
    {i j : Installation} (grows : chi.GrowsTo grown) (h : chi.normalize defaults = .ok i)
    (h' : grown.normalize defaults = .ok j) {host : Host} (hhost : host ∈ i.hosts) :
    host ∈ j.hosts ∧ j.host? host.id = some host ∧
    Blueprint.SameFor ⟨i, defaults, .server⟩ ⟨j, defaults, .server⟩ host ∧
    ∀ (existing : List (Resource .statefulSet)) (regarding : Regarding) (report : PassReport)
      (service : Resource .service) (s : Stores),
      Blueprint.HostStands ⟨i, defaults, .server⟩ host service s →
      Reads s (fun after =>
          after.outcomes = report.outcomes ++ [
            ⟨.service, host.address.workloadName, .skip⟩,
            ⟨.configMap, host.address.configMapName, .skip⟩,
            ⟨.statefulSet, host.address.workloadName, .skip⟩] ∧
          after.failures = report.failures ∧ after.failedHosts = report.failedHosts)
        (reconcileHost ⟨observed j existing, defaults, .server⟩ regarding report
          (Blueprint.seen existing host)) := by
  have hkept := mem_hosts_of_growsTo grows h h' hhost
  have same := Blueprint.sameFor_of_frame (grows.frame_eq h h') defaults host
  obtain ⟨aligned, -⟩ := InstallationResource.aligned_normalize h'
  refine ⟨hkept, aligned.host?_id hkept, same, ?_⟩
  intro existing regarding report service s standing
  refine (Blueprint.reads_spared (standing.observe same existing)).mono ?_
  rintro _ rfl
  have hname := (Blueprint.hostService_ok standing.built).2
  unfold Blueprint.reportSpared
  split
  all_goals
    refine ⟨?_, rfl, rfl⟩
    simp only [Resource.skipped, PassReport.record, PassReport.recordOutcome, hname,
      List.append_assoc, List.cons_append, List.nil_append]
    rfl

/-- The ragged clusters with larger counts, and a third one after them. -/
def widened : InstallationResource :=
  { ragged with spec := { ragged.spec with configuration := { clusters :=
    [{ name := "rows", layout := {
        shardsCount := some 4, replicasCount := some 3,
        shards := [{ replicas := [{}, {}] }, { name := some "east" }] } },
     { name := "columns", layout := {
        shardsCount := some 2, replicasCount := some 3
        replicas := [{ name := some "left" }, { shardsCount := some 3 }] } },
     { name := "more" }] } } }

theorem ragged_growsTo_widened : ragged.GrowsTo widened := by
  refine ⟨rfl, rfl, rfl, rfl, fun {n spec} hspec => ?_⟩
  match n with
  | 0 =>
    obtain rfl := Option.some.inj hspec
    exact ⟨_, rfl, rfl, rfl, by decide, by decide⟩
  | 1 =>
    obtain rfl := Option.some.inj hspec
    exact ⟨_, rfl, rfl, rfl, by decide, by decide⟩
  | n + 2 => cases hspec

/-- A host of the second replica stays where it is, though more stand around it. -/
theorem growth_spares_hosts_ragged :
    ∃ i j host, ragged.normalize {} = .ok i ∧ widened.normalize {} = .ok j ∧
      i.hostsCount = 8 ∧ j.hostsCount = 20 ∧ host ∈ i.hosts ∧ host.id = ⟨1, 1, 1⟩ ∧
      j.host? ⟨1, 1, 1⟩ = some host ∧
      Blueprint.SameFor ⟨i, {}, .server⟩ ⟨j, {}, .server⟩ host := by
  obtain ⟨i, hi, -, hids⟩ := exists_normalize_ragged
  obtain ⟨j, hj, hcount⟩ : ∃ j, widened.normalize {} = .ok j ∧ j.hostsCount = 20 :=
    ⟨_, rfl, rfl⟩
  have hsmall : i.hostsCount = 8 := by
    rw [Installation.hostsCount, ← List.length_map Host.id, hids]
    rfl
  have hmem : (⟨1, 1, 1⟩ : HostId) ∈ i.hosts.map Host.id := by
    rw [hids]
    decide
  obtain ⟨host, hhost, hid⟩ := List.mem_map.1 hmem
  obtain ⟨-, hplace, same, -⟩ := growth_spares_hosts ragged_growsTo_widened hi hj hhost
  rw [hid] at hplace
  exact ⟨i, j, host, hi, hj, hsmall, hcount, hhost, hid, hplace, same⟩

end ShardOperator
