import ShardOperator.Config.Operator
import ShardOperator.Proofs.Data.Verdict
import ShardOperator.Proofs.Desired.Drafts
import ShardOperator.Proofs.Topology.Matrix

namespace ShardOperator

/-- A number that a port can have. -/
def PortNumber (n : Int32) : Prop := 1 ≤ n.toInt ∧ n.toInt ≤ 65535

instance (n : Int32) : Decidable (PortNumber n) := inferInstanceAs (Decidable (_ ∧ _))

theorem isPort_iff {n : Int32} : isPort n.toInt = true ↔ PortNumber n := by
  unfold isPort PortNumber
  rw [Bool.and_eq_true, decide_eq_true_iff, decide_eq_true_iff]

section Declared

/-- What is declared of a port leaves it open, as a zero does too, or can be its number. -/
def Usable (declared : Option Int32) : Prop := ∀ n ∈ declared, n ≠ 0 → PortNumber n

theorem portNumber_resolvePort {declared : Option Int32} {default : Int32}
    (h : PortNumber default) : PortNumber (resolvePort declared default) ↔ Usable declared := by
  unfold resolvePort Usable
  cases declared with
  | none => simpa using h
  | some n =>
    by_cases hn : n = 0
    · simpa [hn] using h
    · simp [hn]

structure HostSpec.PortsUsable (spec : HostSpec) : Prop where
  http : Usable spec.httpPort
  tcp : Usable spec.tcpPort
  interserver : Usable spec.interserverPort

/-- The ports that a host has when nothing is declared can exist. -/
structure HostDefaults.PortsExist (d : HostDefaults) : Prop where
  http : PortNumber d.httpPort
  tcp : PortNumber d.tcpPort
  interserver : PortNumber d.interserverPort

structure Host.PortsExist (host : Host) : Prop where
  http : PortNumber host.httpPort
  tcp : PortNumber host.tcpPort
  interserver : PortNumber host.interserverPort

theorem OperatorConfig.portsExist_of_validate {config : OperatorConfig}
    (h : config.validate = .ok ()) : config.defaults.PortsExist := by
  have hproblem : config.problem? = none := by
    unfold validate at h
    split at h
    · cases h
    · assumption
  have hnone : config.ports.find? (!isPort ·.2) = none := by
    unfold problem? at hproblem
    split at hproblem
    · cases hproblem
    · split at hproblem
      · cases hproblem
      · assumption
  have hports : ∀ entry ∈ config.ports, isPort entry.2 = true := by simpa using hnone
  simp only [ports, List.forall_mem_cons, isPort_iff] at hports
  obtain ⟨htcp, hhttp, hinterserver, -⟩ := hports
  exact ⟨hhttp, htcp, hinterserver⟩

theorem Cluster.ports_declaredHost (i : Installation) (spec : ClusterSpec) (index : Nat)
    (defaults : HostDefaults) (s r : Nat) :
    let host := declaredHost i spec index defaults s r
    let own := spec.layout.hostSpec s r
    host.httpPort = resolvePort own.httpPort defaults.httpPort ∧
      host.tcpPort = resolvePort own.tcpPort defaults.tcpPort ∧
      host.interserverPort = resolvePort own.interserverPort defaults.interserverPort := by
  unfold declaredHost LayoutSpec.hostSpec
  by_cases h : spec.layout.ByShards
  · simp only [if_pos h]
    exact ⟨rfl, rfl, rfl⟩
  · simp only [if_neg h]
    exact ⟨rfl, rfl, rfl⟩

/-- Defaults that can exist leave it to the declaration whether the ports of the host can. -/
theorem Cluster.portsExist_declaredHost {i : Installation} {spec : ClusterSpec} {index s r : Nat}
    {defaults : HostDefaults} (h : defaults.PortsExist) :
    (declaredHost i spec index defaults s r).PortsExist ↔
      (spec.layout.hostSpec s r).PortsUsable := by
  obtain ⟨hhttp, htcp, hinterserver⟩ :=
    ports_declaredHost i spec index defaults s r
  constructor
  · rintro ⟨http, tcp, interserver⟩
    rw [hhttp, portNumber_resolvePort h.http] at http
    rw [htcp, portNumber_resolvePort h.tcp] at tcp
    rw [hinterserver, portNumber_resolvePort h.interserver] at interserver
    exact ⟨http, tcp, interserver⟩
  · rintro ⟨http, tcp, interserver⟩
    rw [← portNumber_resolvePort h.http, ← hhttp] at http
    rw [← portNumber_resolvePort h.tcp, ← htcp] at tcp
    rw [← portNumber_resolvePort h.interserver, ← hinterserver] at interserver
    exact ⟨http, tcp, interserver⟩

end Declared

def ServiceSpec.portNumbers (spec : ServiceSpec) : List Int32 := (spec.ports.getD []).map (·.port)

def ServiceTemplate.PortsExist (t : ServiceTemplate) : Prop :=
  ∀ n ∈ t.spec.portNumbers, PortNumber n

/-- Every port of the Service can exist. -/
def Resource.PortsExist (service : Resource .service) : Prop :=
  ∀ spec ∈ service.body.spec, ∀ n ∈ spec.portNumbers, PortNumber n

theorem ServiceTemplate.verdict_verifyPorts (t : ServiceTemplate) :
    Verdict ("service template " ++ t.name) t.PortsExist t.verifyPorts := by
  unfold verifyPorts PortsExist ServiceSpec.portNumbers
  rw [List.forall_mem_map]
  split
  · next port hport =>
    have hbad := List.find?_some hport
    refine .refused (fun h => ?_) _
    rw [isPort_iff.2 (h port (List.mem_of_find?_eq_some hport))] at hbad
    cases hbad
  · next hnone =>
    refine .accepted (fun port hport => isPort_iff.1 ?_) ()
    simpa using List.find?_eq_none.1 hnone port hport

namespace Blueprint

variable {b : Blueprint} {service : Resource .service}

theorem portsExist_fromTemplate {t : ServiceTemplate} {ns name : String} {labels selector : Labels}
    (h : b.fromTemplate t ns name labels selector = .ok service) : service.PortsExist := by
  obtain ⟨hports, rfl⟩ := fromTemplate_ok h
  have hexist : t.PortsExist := t.verdict_verifyPorts.ok_iff.1 ⟨(), hports⟩
  intro spec hspec
  obtain rfl := Option.some.inj hspec
  exact hexist

theorem portsExist_installationService (hdefaults : b.defaults.PortsExist)
    (h : b.installationService = .ok service) : service.PortsExist := by
  unfold installationService at h
  extract_lets i at h
  split at h
  · exact portsExist_fromTemplate h
  · obtain rfl := Except.ok.inj h
    intro spec hspec
    obtain rfl := Option.some.inj hspec
    exact List.forall_mem_cons.2 ⟨hdefaults.http, List.forall_mem_singleton.2 hdefaults.tcp⟩

theorem portsExist_clusterService {c : Cluster} (h : b.clusterService? c = .ok (some service)) :
    service.PortsExist := by
  unfold clusterService? at h
  split at h
  · exact portsExist_fromTemplate (eq_ok_of_map h)
  · cases h

theorem portsExist_shardService {c : Cluster} {shard : Shard}
    (h : b.shardService? c shard = .ok (some service)) : service.PortsExist := by
  unfold shardService? at h
  split at h
  · exact portsExist_fromTemplate (eq_ok_of_map h)
  · cases h

/-- Without a template the Service of a host has the ports of the host. -/
theorem portsExist_hostService_iff {host : Host} (h : b.hostService host = .ok service) :
    service.PortsExist ↔
      b.serviceTemplate? host.templates.replicaServiceTemplate ≠ none ∨ host.PortsExist := by
  unfold hostService at h
  extract_lets a at h
  split at h
  · next t ht =>
    rw [ht]
    exact iff_of_true (portsExist_fromTemplate h) (.inl nofun)
  · next ht =>
    obtain rfl := Except.ok.inj h
    rw [ht, or_iff_right (not_not_intro rfl)]
    constructor
    · intro hexist
      have hports := hexist _ rfl
      exact ⟨hports _ (.head _), hports _ (.tail _ (.head _)),
        hports _ (.tail _ (.tail _ (.head _)))⟩
    · intro hexist spec hspec
      obtain rfl := Option.some.inj hspec
      exact List.forall_mem_cons.2 ⟨hexist.http, List.forall_mem_cons.2
        ⟨hexist.tcp, List.forall_mem_singleton.2 hexist.interserver⟩⟩

end Blueprint

/-- With a valid configuration, every Service that is built for an accepted installation has ports
that can exist, but for that of a host without a template for which another number is declared. -/
theorem service_ports_exist_iff {config : OperatorConfig} (hconfig : config.validate = .ok ())
    {chi : InstallationResource} {i : Installation} (h : chi.normalize config.defaults = .ok i)
    (flavour : Flavour) :
    let b : Blueprint := ⟨i, config.defaults, flavour⟩
    (∀ service, b.installationService = .ok service → service.PortsExist) ∧
      (∀ c service, b.clusterService? c = .ok (some service) → service.PortsExist) ∧
      (∀ c shard service, b.shardService? c shard = .ok (some service) → service.PortsExist) ∧
      ∀ host ∈ i.hosts, ∃ spec, chi.spec.configuration.clusters[host.id.cluster]? = some spec ∧
        ∀ service, b.hostService host = .ok service →
          (service.PortsExist ↔
            b.serviceTemplate? host.templates.replicaServiceTemplate ≠ none ∨
              (spec.layout.hostSpec host.id.shard host.id.replica).PortsUsable) := by
  intro b
  have hdefaults : b.defaults.PortsExist := config.portsExist_of_validate hconfig
  refine ⟨fun service hbuilt => Blueprint.portsExist_installationService hdefaults hbuilt,
    fun c service hbuilt => Blueprint.portsExist_clusterService hbuilt,
    fun c shard service hbuilt => Blueprint.portsExist_shardService hbuilt, fun host hhost => ?_⟩
  obtain ⟨spec, hspec, -, hplace⟩ := cluster_of_mem_hosts h hhost
  have hdeclared := (Cluster.host?_ofSpec.1 hplace).2
  have hown : host.PortsExist ↔
      (spec.layout.hostSpec host.id.shard host.id.replica).PortsUsable := by
    rw [← Cluster.portsExist_declaredHost hdefaults, ← hdeclared]
  refine ⟨spec, hspec, fun service hbuilt => ?_⟩
  rw [Blueprint.portsExist_hostService_iff hbuilt, hown]

/-- One host, with a number declared for its first port and a zero for its second. -/
def tuned (port : Int32) : InstallationResource where
  metadata := { ns := some "ns", name := some "demo", uid := some "uid-1" }
  spec := { configuration := { clusters := [{
    name := "main"
    layout := { shards := [{
      replicas := [{ tcpPort := some port, httpPort := some 0 }] }] } }] } }

theorem exists_tuned (port : Int32) : ∃ i host service, (tuned port).normalize {} = .ok i ∧
    host ∈ i.hosts ∧ host.id = ⟨0, 0, 0⟩ ∧ host.tcpPort = resolvePort (some port) 9000 ∧
      (⟨i, {}, .server⟩ : Blueprint).serviceTemplate? host.templates.replicaServiceTemplate = none ∧
        (⟨i, {}, .server⟩ : Blueprint).hostService host = .ok service :=
  ⟨_, _, _, rfl, .head _, rfl, rfl, rfl, rfl⟩

theorem service_ports_exist_iff_tuned :
    ({} : OperatorConfig).validate = .ok () ∧
      ∃ i host service, (tuned 9440).normalize {} = .ok i ∧ host ∈ i.hosts ∧
        (⟨i, {}, .server⟩ : Blueprint).hostService host = .ok service ∧ service.PortsExist := by
  have hconfig : ({} : OperatorConfig).validate = .ok () := rfl
  obtain ⟨i, host, service, hi, hhost, hid, -, -, hservice⟩ := exists_tuned 9440
  obtain ⟨-, -, -, hhosts⟩ := service_ports_exist_iff hconfig hi .server
  obtain ⟨spec, hspec, hiff⟩ := hhosts host hhost
  rw [hid] at hspec hiff
  obtain rfl := Option.some.inj hspec
  refine ⟨hconfig, i, host, service, hi, hhost, hservice, (hiff service hservice).2 (.inr ?_)⟩
  refine ⟨?_, ?_, nofun⟩
  · intro n hn hne
    exact absurd (Option.some.inj hn).symm hne
  · intro n hn _
    obtain rfl := Option.some.inj hn
    decide

/-- The Service of an accepted host has a port that cannot exist. -/
theorem host_port_out_of_range :
    ({} : OperatorConfig).validate = .ok () ∧
      ∃ i host service, (tuned 70000).normalize {} = .ok i ∧ host ∈ i.hosts ∧
        (⟨i, {}, .server⟩ : Blueprint).hostService host = .ok service ∧ ¬service.PortsExist := by
  obtain ⟨i, host, service, hi, hhost, -, hport, htemplate, hservice⟩ := exists_tuned 70000
  refine ⟨rfl, i, host, service, hi, hhost, hservice, fun hexist => ?_⟩
  rcases (Blueprint.portsExist_hostService_iff hservice).1 hexist with hsome | hown
  · exact hsome htemplate
  · have htcp := hown.tcp
    rw [hport] at htcp
    exact absurd htcp (by decide)

end ShardOperator
