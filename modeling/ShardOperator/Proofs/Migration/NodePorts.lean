import Mathlib.Data.List.Nodup
import Mathlib.Data.List.Pairwise
import ShardOperator.Proofs.Migration.Services

namespace ShardOperator

namespace ServicePort

/-- The protocol, which is TCP where none is given. -/
def transport (port : ServicePort) : String := port.protocol.getD "TCP"

/-- What tells the ports of a Service apart. -/
def key (port : ServicePort) : Int32 × String := (port.port, port.transport)

/-- Both have the same number on the nodes. -/
def Share (a b : ServicePort) : Prop := a.nodePort.isSome = true ∧ a.nodePort = b.nodePort

/-- Two ports of one protocol do not have the same number on the nodes. -/
def Apart (a b : ServicePort) : Prop := a.transport = b.transport → ¬Share a b

instance (a b : ServicePort) : Decidable (Share a b) := inferInstanceAs (Decidable (_ ∧ _))

instance (a b : ServicePort) : Decidable (Apart a b) := inferInstanceAs (Decidable (_ → _))

theorem Share.symm {a b : ServicePort} (h : Share a b) : Share b a := ⟨h.2 ▸ h.1, h.2.symm⟩

instance : Std.Symm Apart := ⟨fun _ _ h hsame hshare => h hsame.symm hshare.symm⟩

/-- The ports of a Service as the platform has them. -/
structure Distinct (ports : List ServicePort) : Prop where
  keys : (ports.map key).Nodup
  apart : ports.Pairwise Apart

/-- A port without a number on the nodes takes that of a current port, the first one with its own
number. -/
def Takes (current : List ServicePort) (port source : ServicePort) : Prop :=
  port.nodePort = none ∧ current.find? (·.port = port.port) = some source

instance (current : List ServicePort) (port source : ServicePort) :
    Decidable (Takes current port source) :=
  inferInstanceAs (Decidable (_ ∧ _))

/-- Numbers on the nodes that are desired stay. A port without one has that of the current port with
its number and protocol, if there is one, and within a protocol no two ports have the same. -/
structure OneToOne (current desired migrated : List ServicePort) : Prop where
  explicit : List.Forall₂ (fun before after => ∀ n, before.nodePort = some n →
    after.nodePort = some n) desired migrated
  carried : List.Forall₂ (fun before after => before.nodePort = none →
    ∀ own ∈ current, own.key = before.key → after.nodePort = own.nodePort) desired migrated
  apart : migrated.Pairwise Apart

/-- No port is confused with another. What a port takes is what its own port has, even where the
first port with its number has another protocol; no other port of its protocol is to have it; and no
other port of its protocol takes the same from a port of another protocol. -/
structure Untangled (current desired : List ServicePort) : Prop where
  own : ∀ port ∈ desired, ∀ source ∈ current, Takes current port source →
    ∀ own ∈ current, own.key = port.key → source.nodePort = own.nodePort
  free : ∀ port ∈ desired, ∀ source ∈ current, Takes current port source →
    ∀ other ∈ desired, port.transport = other.transport → ¬Share source other
  straight : ∀ port ∈ desired, ∀ source ∈ current, Takes current port source →
    ∀ other ∈ desired, ∀ source' ∈ current, Takes current other source' →
      port.transport = other.transport → source.transport ≠ source'.transport →
        ¬Share source source'

variable {current desired : List ServicePort} {port other source : ServicePort}

theorem Takes.mem (h : Takes current port source) : source ∈ current :=
  List.mem_of_find?_eq_some h.2

theorem Takes.port_eq (h : Takes current port source) : source.port = port.port := by
  have hnumber := List.find?_some h.2
  exact of_decide_eq_true hnumber

theorem Takes.nodePort (h : Takes current port source) :
    (ServiceSpec.keepNodePort current port).nodePort = source.nodePort := by
  rw [nodePort_keepNodePort, h.1, h.2, Option.none_or, Option.bind_some]

theorem nodePort_keepNodePort_of_isSome (current : List ServicePort)
    (h : port.nodePort.isSome = true) :
    (ServiceSpec.keepNodePort current port).nodePort = port.nodePort := by
  rw [nodePort_keepNodePort, Option.or_of_isSome h]

/-- Where there is a current port with the number, something is taken. -/
theorem exists_takes {own : ServicePort} (hport : port.nodePort = none) (hown : own ∈ current)
    (hnumber : own.port = port.port) : ∃ source, Takes current port source := by
  cases hfind : current.find? (·.port = port.port) with
  | some source => exact ⟨source, hport, hfind⟩
  | none => exact absurd hnumber (by simpa using List.find?_eq_none.1 hfind own hown)

/-- A port that has a number on the nodes in the end had it before, or has taken it. -/
theorem takes_of_isSome (h : (ServiceSpec.keepNodePort current port).nodePort.isSome = true) :
    port.nodePort.isSome = true ∨ ∃ source, Takes current port source := by
  cases hport : port.nodePort with
  | some n => exact .inl rfl
  | none =>
    rw [nodePort_keepNodePort, hport, Option.none_or] at h
    cases hfind : current.find? (·.port = port.port) with
    | some source => exact .inr ⟨source, hport, hfind⟩
    | none =>
      rw [hfind] at h
      cases h

theorem share_keepNodePort_iff {a b : ServicePort}
    (ha : (ServiceSpec.keepNodePort current port).nodePort = a.nodePort)
    (hb : (ServiceSpec.keepNodePort current other).nodePort = b.nodePort) :
    Share (ServiceSpec.keepNodePort current port) (ServiceSpec.keepNodePort current other) ↔
      Share a b := by
  rw [Share, ha, hb, Share]

theorem Distinct.eq_of_key (h : Distinct desired) (hport : port ∈ desired)
    (hother : other ∈ desired) (hkey : port.key = other.key) : port = other :=
  List.inj_on_of_nodup_map h.keys hport hother hkey

/-- Two ports take the same only from ports of two protocols, or they are one. -/
theorem not_share_of_takes {source' : ServicePort} (hcurrent : Distinct current)
    (hne : port.key ≠ other.key) (hsame : port.transport = other.transport)
    (h : Takes current port source) (h' : Takes current other source')
    (htransport : source.transport = source'.transport) : ¬Share source source' := by
  have hsources : source ≠ source' := by
    intro heq
    apply hne
    rw [key, key, ← h.port_eq, ← h'.port_eq, heq, hsame]
  exact hcurrent.apart.forall h.mem h'.mem hsources htransport

theorem Untangled.apart (untangled : Untangled current desired) (hcurrent : Distinct current)
    (hdesired : Distinct desired) (hport : port ∈ desired) (hother : other ∈ desired)
    (hne : port ≠ other) :
    Apart (ServiceSpec.keepNodePort current port) (ServiceSpec.keepNodePort current other) := by
  intro hsame hshare
  change port.transport = other.transport at hsame
  -- Either number was there before or is taken, and only two that are taken need the sources.
  rcases takes_of_isSome hshare.1 with hset | ⟨source, htakes⟩
  · have hport' := nodePort_keepNodePort_of_isSome current hset
    rcases takes_of_isSome hshare.symm.1 with hset' | ⟨source', htakes'⟩
    · have hother' := nodePort_keepNodePort_of_isSome current hset'
      exact hdesired.apart.forall hport hother hne hsame
        ((share_keepNodePort_iff hport' hother').1 hshare)
    · exact untangled.free other hother source' htakes'.mem htakes' port hport hsame.symm
        ((share_keepNodePort_iff hport' htakes'.nodePort).1 hshare).symm
  · rcases takes_of_isSome hshare.symm.1 with hset' | ⟨source', htakes'⟩
    · have hother' := nodePort_keepNodePort_of_isSome current hset'
      exact untangled.free port hport source htakes.mem htakes other hother hsame
        ((share_keepNodePort_iff htakes.nodePort hother').1 hshare)
    · have htaken := (share_keepNodePort_iff htakes.nodePort htakes'.nodePort).1 hshare
      by_cases htransport : source.transport = source'.transport
      · exact not_share_of_takes hcurrent (fun h => hne (hdesired.eq_of_key hport hother h)) hsame
          htakes htakes' htransport htaken
      · exact untangled.straight port hport source htakes.mem htakes other hother source'
          htakes'.mem htakes' hsame htransport htaken

theorem OneToOne.untangled
    (h : OneToOne current desired (desired.map (ServiceSpec.keepNodePort current))) :
    Untangled current desired := by
  have hcarried := List.forall₂_same.1 (List.forall₂_map_right_iff.1 h.carried)
  have hsymm : Std.Symm fun a b => Apart (ServiceSpec.keepNodePort current a)
    (ServiceSpec.keepNodePort current b) := ⟨fun _ _ hab => Std.Symm.symm _ _ hab⟩
  have hapart := (List.pairwise_map.1 h.apart).forall
  constructor
  case own =>
    intro port hport source _ htakes own hown hkey
    exact htakes.nodePort.symm.trans (hcarried port hport htakes.1 own hown hkey)
  case free =>
    intro port hport source _ htakes other hother hsame hshare
    have hne : port ≠ other := by
      rintro rfl
      have hset := hshare.symm.1
      rw [htakes.1] at hset
      cases hset
    have hother' := nodePort_keepNodePort_of_isSome current hshare.symm.1
    exact hapart hport hother hne hsame ((share_keepNodePort_iff htakes.nodePort hother').2 hshare)
  case straight =>
    intro port hport source _ htakes other hother source' _ htakes' hsame htransport hshare
    have hne : port ≠ other := by
      rintro rfl
      exact htransport (congrArg transport (Option.some.inj (htakes.2.symm.trans htakes'.2)))
    exact hapart hport hother hne hsame
      ((share_keepNodePort_iff htakes.nodePort htakes'.nodePort).2 hshare)

theorem oneToOne_iff (hcurrent : Distinct current) (hdesired : Distinct desired) :
    OneToOne current desired (desired.map (ServiceSpec.keepNodePort current)) ↔
      Untangled current desired := by
  refine ⟨OneToOne.untangled, fun untangled => ⟨?_, ?_, ?_⟩⟩
  · rw [List.forall₂_map_right_iff, List.forall₂_same]
    exact fun port _ => (port.keepsDesired_keepNodePort current).set
  · rw [List.forall₂_map_right_iff, List.forall₂_same]
    intro port hport hnone own hown hkey
    obtain ⟨source, htakes⟩ := exists_takes hnone hown (congrArg Prod.fst hkey)
    rw [htakes.nodePort]
    exact untangled.own port hport source htakes.mem htakes own hown hkey
  · rw [List.pairwise_map]
    exact hdesired.keys.of_map.pairwise_of_forall_ne fun port hport other hother hne =>
      untangled.apart hcurrent hdesired hport hother hne

end ServicePort

namespace Resource

def servicePorts (service : Resource .service) : List ServicePort :=
  service.serviceSpec.ports.getD []

variable {current desired : Resource .service}

theorem servicePorts_of_migrated {migrated : Resource .service}
    (hassigns : ServiceSpec.assignsNodePorts current.serviceType = true)
    (hspec : migrated.serviceSpec? = desired.serviceSpec?.map
      (current.serviceSpec.migrate current.serviceType)) :
    migrated.servicePorts =
      desired.servicePorts.map (ServiceSpec.keepNodePort current.servicePorts) := by
  unfold servicePorts
  cases hdesired : desired.serviceSpec? with
  | none =>
    rw [hdesired] at hspec
    rw [serviceSpec_of_none hdesired, serviceSpec_of_none hspec]
    rfl
  | some spec =>
    rw [serviceSpec_of_map hdesired hspec, ServiceSpec.ports_migrate, if_pos hassigns]
    cases desired.serviceSpec.ports <;> rfl

end Resource

/-- The ports of a Service that has them on the nodes are migrated one by one. A number on the nodes
that is desired stays, and a port without one takes that of the first current port with its own
number, whatever the protocols. So they are carried over one to one exactly if no port is confused
with another. -/
theorem node_ports_one_to_one_iff {current desired : Resource .service}
    (hsame : current.serviceType = desired.serviceType)
    (htype : current.serviceType = "NodePort" ∨ current.serviceType = "LoadBalancer")
    (hcurrent : ServicePort.Distinct current.servicePorts)
    (hdesired : ServicePort.Distinct desired.servicePorts) :
    ∃ migrated, current.migrate desired = .ok migrated ∧
      List.Forall₂ (fun before after => after.outline = before.outline ∧
          after.nodePort = before.nodePort.or
            ((current.servicePorts.find? (·.port = before.port)).bind (·.nodePort)))
        desired.servicePorts migrated.servicePorts ∧
      (ServicePort.OneToOne current.servicePorts desired.servicePorts migrated.servicePorts ↔
        ServicePort.Untangled current.servicePorts desired.servicePorts) := by
  obtain ⟨migrated, hmigrated, -, -, hspec⟩ := Resource.migrate_of_serviceType_eq hsame
  have hassigns : ServiceSpec.assignsNodePorts current.serviceType = true := by
    rcases htype with h | h <;> rw [h] <;> rfl
  refine ⟨migrated, hmigrated, ?_⟩
  rw [Resource.servicePorts_of_migrated hassigns hspec]
  refine ⟨?_, ServicePort.oneToOne_iff hcurrent hdesired⟩
  rw [List.forall₂_map_right_iff, List.forall₂_same]
  exact fun port _ => ⟨rfl, ServicePort.nodePort_keepNodePort ..⟩

/-- A Service with some ports on the nodes. -/
def exposing (ports : List ServicePort) : Resource .service where
  metadata := { name := some "clickhouse-demo", ns := some "ns" }
  body := { spec := some { ports := some ports, serviceType := some "NodePort" } : ServiceBody }

/-- Two ports of different protocols with their numbers on the nodes. -/
def assignedPorts : List ServicePort :=
  [{ nodePort := some 30123, port := 8123, protocol := some "TCP" },
    { nodePort := some 30053, port := 53, protocol := some "UDP" }]

/-- The same ports in another order, and between them a new one with its number. -/
def desiredPorts : List ServicePort :=
  [{ port := 53, protocol := some "UDP" }, { nodePort := some 30900, port := 9000 },
    { port := 8123 }]

/-- The general result where ports have come and have changed places. -/
theorem node_ports_one_to_one_added :
    ∃ migrated, (exposing assignedPorts).serviceType = "NodePort" ∧
      ServicePort.Distinct assignedPorts ∧ ServicePort.Distinct desiredPorts ∧
      (exposing assignedPorts).migrate (exposing desiredPorts) = .ok migrated ∧
      migrated.servicePorts.map (·.nodePort) = [some 30053, some 30900, some 30123] ∧
      ServicePort.OneToOne assignedPorts desiredPorts migrated.servicePorts := by
  have hcurrent : ServicePort.Distinct assignedPorts := ⟨by decide, by decide⟩
  have hdesired : ServicePort.Distinct desiredPorts := ⟨by decide, by decide⟩
  have hsame : (exposing assignedPorts).serviceType = (exposing desiredPorts).serviceType := rfl
  obtain ⟨migrated, hmigrated, -, hiff⟩ :=
    node_ports_one_to_one_iff hsame (.inl rfl) hcurrent hdesired
  have hnodePorts : migrated.servicePorts.map (·.nodePort) =
      [some 30053, some 30900, some 30123] := by
    obtain rfl := Except.ok.inj hmigrated
    rfl
  exact ⟨migrated, rfl, hcurrent, hdesired, hmigrated, hnodePorts,
    hiff.2 ⟨by decide, by decide, by decide⟩⟩

def nameServer (protocol : String) (nodePort : Option Int32) : ServicePort :=
  { nodePort, port := 53, protocol := some protocol }

/-- One number in two protocols. -/
def twofold (tcp udp : Option Int32) : List ServicePort :=
  [nameServer "TCP" tcp, nameServer "UDP" udp]

/-- Of two ports with one number the second takes what the first one has. -/
theorem node_ports_confused :
    ∃ migrated, ServicePort.Distinct (twofold (some 30053) (some 30054)) ∧
      ServicePort.Distinct (twofold none none) ∧
      (exposing (twofold (some 30053) (some 30054))).migrate (exposing (twofold none none)) =
        .ok migrated ∧
      migrated.servicePorts = twofold (some 30053) (some 30053) ∧
      ¬ServicePort.OneToOne (twofold (some 30053) (some 30054)) (twofold none none)
        migrated.servicePorts := by
  refine ⟨_, ⟨by decide, by decide⟩, ⟨by decide, by decide⟩, rfl, rfl, fun h => ?_⟩
  obtain ⟨-, hrest⟩ := List.forall₂_cons.1 h.carried
  have hown : nameServer "UDP" (some 30054) ∈ twofold (some 30053) (some 30054) :=
    List.mem_cons_of_mem _ (List.mem_singleton_self _)
  have hudp := (List.forall₂_cons.1 hrest).1 rfl _ hown rfl
  exact absurd hudp (by decide)

end ShardOperator
