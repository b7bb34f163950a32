import Mathlib.Data.List.Forall2
import ShardOperator.Proofs.Migration.Metadata

namespace ShardOperator

/-- What is desired stays, and what is not set stays so or is taken from the current value. -/
structure Keeps {α : Type} (current desired migrated : Option α) : Prop where
  set : ∀ value, desired = some value → migrated = some value
  unset : desired = none → migrated = none ∨ migrated = current

section Keeps

variable {α : Type} (current desired : Option α)

theorem keeps_self : Keeps current desired desired := ⟨fun _ h => h, Or.inl⟩

theorem keeps_or : Keeps current desired (desired.or current) := by
  refine ⟨fun value h => ?_, fun h => .inr ?_⟩
  · rw [h, Option.some_or]
  · rw [h, Option.none_or]

theorem keeps_current_iff :
    Keeps current desired current ↔ ∀ value, desired = some value → current = some value :=
  ⟨Keeps.set, fun h => ⟨h, fun _ => .inr rfl⟩⟩

end Keeps

namespace ServicePort

/-- The port but for its number on the nodes. -/
def outline (port : ServicePort) : ServicePort := { port with nodePort := none }

/-- A port keeps what is desired of it, and takes at most the node port of a current one with its
number. -/
structure KeepsDesired (current : List ServicePort) (desired migrated : ServicePort) : Prop where
  rest : migrated.outline = desired.outline
  set : ∀ n, desired.nodePort = some n → migrated.nodePort = some n
  unset : desired.nodePort = none → migrated.nodePort = none ∨
    ∃ port ∈ current, port.port = desired.port ∧ migrated.nodePort = port.nodePort

theorem keepsDesired_self (current : List ServicePort) (port : ServicePort) :
    KeepsDesired current port port :=
  ⟨rfl, fun _ h => h, Or.inl⟩

theorem nodePort_keepNodePort (current : List ServicePort) (port : ServicePort) :
    (ServiceSpec.keepNodePort current port).nodePort =
      port.nodePort.or ((current.find? (·.port = port.port)).bind (·.nodePort)) :=
  rfl

theorem keepsDesired_keepNodePort (current : List ServicePort) (port : ServicePort) :
    KeepsDesired current port (ServiceSpec.keepNodePort current port) := by
  refine ⟨rfl, fun n h => ?_, fun h => ?_⟩
  · rw [nodePort_keepNodePort, h, Option.some_or]
  · rw [nodePort_keepNodePort, h, Option.none_or]
    cases hfind : current.find? (·.port = port.port) with
    | none => exact .inl rfl
    | some source =>
      have hnumber := List.find?_some hfind
      exact .inr ⟨source, List.mem_of_find?_eq_some hfind, of_decide_eq_true hnumber, rfl⟩

end ServicePort

namespace ServiceSpec

/-- What of a Service is never taken from the current one. -/
def outline (spec : ServiceSpec) : ServiceSpec :=
  { spec with clusterIP := none, clusterIPs := none, ports := none, healthCheckNodePort := none,
              loadBalancerClass := none }

/-- Everything that is desired stays, the address apart, and what is not set is at most taken from
the current Service. -/
structure KeepsRest (current desired migrated : ServiceSpec) : Prop where
  rest : migrated.outline = desired.outline
  ports : Option.Rel (List.Forall₂ (ServicePort.KeepsDesired (current.ports.getD [])))
    desired.ports migrated.ports
  healthCheckNodePort :
    Keeps current.healthCheckNodePort desired.healthCheckNodePort migrated.healthCheckNodePort
  loadBalancerClass :
    Keeps current.loadBalancerClass desired.loadBalancerClass migrated.loadBalancerClass

/-- Everything that is desired stays, and what is not set is at most taken from the current
Service. -/
structure KeepsDesired (current desired migrated : ServiceSpec) : Prop
    extends KeepsRest current desired migrated where
  clusterIP : Keeps current.clusterIP desired.clusterIP migrated.clusterIP
  clusterIPs : Keeps current.clusterIPs desired.clusterIPs migrated.clusterIPs

def address (spec : ServiceSpec) : Option String × Option (List String) :=
  (spec.clusterIP, spec.clusterIPs)

/-- No other address is desired than the one that has been assigned, if one has. -/
structure AddressAgrees (current desired : ServiceSpec) : Prop where
  clusterIP : current.hasAddress = true →
    ∀ ip, desired.clusterIP = some ip → current.clusterIP = some ip
  clusterIPs : current.hasAddress = true →
    ∀ ips, desired.clusterIPs = some ips → current.clusterIPs = some ips

variable (serviceType : String) (current desired : ServiceSpec)

theorem forall₂_keepNodePort (sources ports : List ServicePort) :
    List.Forall₂ (ServicePort.KeepsDesired sources) ports (ports.map (keepNodePort sources)) := by
  rw [List.forall₂_map_right_iff, List.forall₂_same]
  exact fun port _ => port.keepsDesired_keepNodePort sources

theorem ports_migrate : (current.migrate serviceType desired).ports =
    if assignsNodePorts serviceType
    then desired.ports.map (·.map (keepNodePort (current.ports.getD []))) else desired.ports :=
  rfl

theorem address_migrate : (current.migrate serviceType desired).address =
    if current.hasAddress then current.address else desired.address := by
  unfold migrate
  cases current.hasAddress <;> rfl

theorem keepsRest_migrate : KeepsRest current desired (current.migrate serviceType desired) where
  rest := rfl
  ports := by
    rw [ports_migrate]
    cases desired.ports with
    | none =>
      rw [Option.map_none, ite_self]
      exact .none
    | some ports =>
      split
      · exact .some (forall₂_keepNodePort ..)
      · exact .some (List.forall₂_same.2 fun port _ => port.keepsDesired_self _)
  healthCheckNodePort := by
    change Keeps _ _ (if current.isLocal && desired.isLocal then _ else _)
    split
    · exact keeps_or ..
    · exact keeps_self ..
  loadBalancerClass := keeps_or ..

theorem keepsDesired_migrate_iff :
    KeepsDesired current desired (current.migrate serviceType desired) ↔
      AddressAgrees current desired := by
  have haddress := address_migrate serviceType current desired
  -- Without an assigned address the desired one stays, and there is nothing to agree with.
  cases hassigned : current.hasAddress with
  | true =>
    rw [hassigned, if_pos rfl] at haddress
    obtain ⟨hip, hips⟩ := Prod.mk.inj haddress
    constructor
    · intro h
      exact ⟨fun _ ip hip' => hip ▸ h.clusterIP.set ip hip',
        fun _ ips hips' => hips ▸ h.clusterIPs.set ips hips'⟩
    · intro h
      refine ⟨keepsRest_migrate .., ?_, ?_⟩
      · rw [hip]
        exact (keeps_current_iff ..).2 (h.clusterIP hassigned)
      · rw [hips]
        exact (keeps_current_iff ..).2 (h.clusterIPs hassigned)
  | false =>
    rw [hassigned, if_neg (by decide)] at haddress
    obtain ⟨hip, hips⟩ := Prod.mk.inj haddress
    refine iff_of_true ⟨keepsRest_migrate .., ?_, ?_⟩ ⟨?_, ?_⟩
    · rw [hip]
      exact keeps_self ..
    · rw [hips]
      exact keeps_self ..
    · intro h
      rw [hassigned] at h
      cases h
    · intro h
      rw [hassigned] at h
      cases h

/-- Where the current Service says nothing there is nothing to take from it. -/
theorem migrate_empty : migrate serviceType {} desired = desired := by
  have hport : keepNodePort [] = id := funext fun port => by simp [keepNodePort]
  simp [migrate, hasAddress, isLocal, hport]

/-- A Service without a specification stays one. -/
theorem keepsDesired_empty : KeepsDesired current {} {} where
  rest := rfl
  ports := .none
  healthCheckNodePort := keeps_self ..
  loadBalancerClass := keeps_self ..
  clusterIP := keeps_self ..
  clusterIPs := keeps_self ..

theorem addressAgrees_empty : AddressAgrees current {} := by
  constructor
  · intro _ ip h
    cases h
  · intro _ ips h
    cases h

end ServiceSpec

namespace Resource

def serviceSpec? (service : Resource .service) : Option ServiceSpec := ServiceBody.spec service.body

/-- What the specification of a Service says, which is nothing where it is missing. -/
def serviceSpec (service : Resource .service) : ServiceSpec := service.serviceSpec?.getD {}

def serviceType (service : Resource .service) : String := ServiceBody.serviceType service.body

/-- A Service in place of the current one. -/
structure SucceedsService (current desired migrated : Resource .service) : Prop where
  metadata : migrated.metadata = current.metadata.migrate desired.metadata
  status : ServiceBody.status migrated.body = ServiceBody.status desired.body
  specified : migrated.serviceSpec?.isSome = desired.serviceSpec?.isSome
  rest : current.serviceSpec.KeepsRest desired.serviceSpec migrated.serviceSpec
  address : migrated.serviceSpec.address =
    if desired.serviceSpec?.isSome && current.serviceSpec.hasAddress
    then current.serviceSpec.address else desired.serviceSpec.address

variable {current desired : Resource .service}

theorem migrate_of_serviceType_ne (h : current.serviceType ≠ desired.serviceType) :
    current.migrate desired = .error (.immutableField "Service" current.ns current.name
      ("type " ++ current.serviceType ++ " -> " ++ desired.serviceType)) :=
  if_pos h

theorem serviceSpec_of_none (h : desired.serviceSpec? = none) : desired.serviceSpec = {} := by
  rw [serviceSpec, h, Option.getD_none]

theorem serviceSpec_of_map {migrated : Resource .service} {f : ServiceSpec → ServiceSpec}
    {spec : ServiceSpec} (hdesired : desired.serviceSpec? = some spec)
    (h : migrated.serviceSpec? = desired.serviceSpec?.map f) :
    migrated.serviceSpec = f desired.serviceSpec := by
  rw [hdesired] at h
  rw [serviceSpec, h, serviceSpec, hdesired]
  rfl

/-- A Service of the same type is migrated by its specification, if one is desired. -/
theorem migrate_of_serviceType_eq (h : current.serviceType = desired.serviceType) :
    ∃ migrated, current.migrate desired = .ok migrated ∧
      migrated.metadata = current.metadata.migrate desired.metadata ∧
      ServiceBody.status migrated.body = ServiceBody.status desired.body ∧
      migrated.serviceSpec? = desired.serviceSpec?.map
        (current.serviceSpec.migrate current.serviceType) := by
  refine ⟨_, if_neg (not_not_intro h), rfl, rfl, ?_⟩
  unfold serviceSpec serviceSpec?
  dsimp only
  cases ServiceBody.spec current.body with
  | some spec => cases ServiceBody.spec desired.body <;> rfl
  | none =>
    cases ServiceBody.spec desired.body with
    | none => rfl
    | some spec' => exact congrArg some (ServiceSpec.migrate_empty ..).symm

theorem exists_migrated (h : current.serviceType = desired.serviceType) :
    ∃ migrated, current.migrate desired = .ok migrated ∧ SucceedsService current desired migrated ∧
      (current.serviceSpec.KeepsDesired desired.serviceSpec migrated.serviceSpec ↔
        current.serviceSpec.AddressAgrees desired.serviceSpec) := by
  obtain ⟨migrated, hmigrated, hmetadata, hstatus, hspec⟩ := migrate_of_serviceType_eq h
  have hspecified : migrated.serviceSpec?.isSome = desired.serviceSpec?.isSome := by
    rw [hspec, Option.isSome_map]
  refine ⟨migrated, hmigrated, ?_⟩
  cases hdesired : desired.serviceSpec? with
  | none =>
    rw [hdesired, Option.map_none] at hspec
    rw [serviceSpec_of_none hdesired, serviceSpec_of_none hspec]
    have hkeeps := ServiceSpec.keepsDesired_empty current.serviceSpec
    refine ⟨⟨hmetadata, hstatus, hspecified, ?_, ?_⟩,
      iff_of_true hkeeps (ServiceSpec.addressAgrees_empty ..)⟩
    · rw [serviceSpec_of_none hdesired, serviceSpec_of_none hspec]
      exact hkeeps.toKeepsRest
    · rw [hdesired, serviceSpec_of_none hdesired, serviceSpec_of_none hspec]
      rfl
  | some spec =>
    have hsame : migrated.serviceSpec =
        current.serviceSpec.migrate current.serviceType desired.serviceSpec :=
      serviceSpec_of_map hdesired hspec
    rw [hsame]
    refine ⟨⟨hmetadata, hstatus, hspecified, ?_, ?_⟩, ServiceSpec.keepsDesired_migrate_iff ..⟩
    · rw [hsame]
      exact ServiceSpec.keepsRest_migrate ..
    · rw [hsame, ServiceSpec.address_migrate, hdesired, Option.isSome_some, Bool.true_and]

end Resource

/-- A Service of another type is refused. One of the same type is migrated, and then it keeps all
that is desired, whatever the current one has, with one exception: an address that the current
Service has stays, so that all is kept exactly if no other address is desired. -/
theorem service_keeps_desired_iff (current desired : Resource .service) :
    (current.serviceType = desired.serviceType ∧
      ∃ migrated, current.migrate desired = .ok migrated ∧
        Resource.SucceedsService current desired migrated ∧
        (current.serviceSpec.KeepsDesired desired.serviceSpec migrated.serviceSpec ↔
          current.serviceSpec.AddressAgrees desired.serviceSpec)) ∨
    (current.serviceType ≠ desired.serviceType ∧
      current.migrate desired = .error (.immutableField "Service" current.ns current.name
        ("type " ++ current.serviceType ++ " -> " ++ desired.serviceType))) := by
  by_cases h : current.serviceType = desired.serviceType
  · exact .inl ⟨h, Resource.exists_migrated h⟩
  · exact .inr ⟨h, Resource.migrate_of_serviceType_ne h⟩

/-- A Service that has got an address. -/
def addressed : Resource .service where
  metadata := {
    annotations := some (SortedMap.empty.insert versionAnnotation "1")
    name := some "chi-demo-main-0-0"
    ns := some "ns"
    resourceVersion := some "7" }
  body := { spec := some {
    clusterIP := some "10.0.0.5"
    clusterIPs := some ["10.0.0.5"]
    serviceType := some "ClusterIP" } : ServiceBody }

/-- The same Service as it is to be without an address. -/
def headless : Resource .service where
  metadata := {
    annotations := some (SortedMap.empty.insert versionAnnotation "2")
    name := some "chi-demo-main-0-0"
    ns := some "ns" }
  body := { spec := some {
    clusterIP := some "None"
    serviceType := some "ClusterIP" } : ServiceBody }

/-- A Service that is to lose its address keeps it, and is then taken for the desired one. -/
theorem headless_keeps_address :
    ∃ migrated, addressed.migrate headless = .ok migrated ∧
      headless.serviceSpec.clusterIP = some "None" ∧
      migrated.serviceSpec.clusterIP = some "10.0.0.5" ∧
      ¬addressed.serviceSpec.KeepsDesired headless.serviceSpec migrated.serviceSpec ∧
      Reconcile.isCurrent migrated headless = true := by
  refine ⟨_, rfl, rfl, rfl, fun h => ?_, by decide⟩
  exact absurd (h.clusterIP.set "None" rfl) (by decide)

end ShardOperator
