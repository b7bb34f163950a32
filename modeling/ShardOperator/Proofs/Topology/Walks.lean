import ShardOperator.Proofs.Topology.Matrix

namespace ShardOperator

namespace HostId

/-- The order replica by replica. -/
def BeforeByReplicas (a b : HostId) : Prop :=
  a.replica < b.replica ∨ a.replica = b.replica ∧ a.shard < b.shard

theorem BeforeByReplicas.ne {a b : HostId} (h : a.BeforeByReplicas b) : a ≠ b := by
  rintro rfl
  rcases h with h | ⟨-, h⟩
  · exact Nat.lt_irrefl a.replica h
  · exact Nat.lt_irrefl a.shard h

end HostId

namespace Walk

variable {α σ : Type}

/-- What the visits of the items, one after the other, make of a state, whether they fail or
not. -/
def after (visit : α → StateM σ (Outcome Unit)) (items : List α) (start : σ) : σ :=
  items.foldl (fun state item => (visit item state).2) start

/-- A walk visits each of the items once and in their order. Its outcomes are those of the visits,
each made in the state that all the visits before it have left. -/
structure Visits (walk : StateM σ Walk) (items : List α) (visit : α → StateM σ (Outcome Unit)) :
    Prop where
  outcome (start : σ) (n : Nat) : (walk start).1.outcomes[n]? =
    items[n]?.map fun item => (visit item (after visit (items.take n) start)).1
  state (start : σ) : (walk start).2 = after visit items start

theorem Visits.size {walk : StateM σ Walk} {items : List α} {visit : α → StateM σ (Outcome Unit)}
    (h : Visits walk items visit) (start : σ) : (walk start).1.size = items.length := by
  have hlength (n : Nat) : (walk start).1.outcomes.length ≤ n ↔ items.length ≤ n := by
    rw [← List.getElem?_eq_none_iff, h.outcome, Option.map_eq_none_iff, List.getElem?_eq_none_iff]
  exact Nat.le_antisymm ((hlength _).2 (Nat.le_refl _)) ((hlength _).1 (Nat.le_refl _))

/-- The first visit is made in the state that the walk starts in, and the walk goes on in the state
that it leaves. -/
theorem visits_along (items : List α) (visit : α → StateM σ (Outcome Unit)) :
    Visits (along items visit) items visit := by
  induction items with
  | nil => exact ⟨fun _ _ => rfl, fun _ => rfl⟩
  | cons item rest ih =>
    have hstep (start : σ) : along (item :: rest) visit start =
        (⟨(visit item start).1 :: (along rest visit (visit item start).2).1.outcomes⟩,
          (along rest visit (visit item start).2).2) := by
      unfold along
      rw [List.mapM_cons]
      rfl
    constructor
    · intro start n
      rw [hstep]
      cases n with
      | zero => rfl
      | succ n => exact ih.outcome (visit item start).2 n
    · intro start
      rw [hstep]
      exact ih.state (visit item start).2

/-- Counts the visits. -/
def tally (_ : α) : StateM Nat (Outcome Unit) := fun count => (.ok (), count + 1)

theorem after_tally (items : List α) (start : Nat) :
    after tally items start = start + items.length := by
  induction items generalizing start with
  | nil => rfl
  | cons item rest ih =>
    rw [List.length_cons, ← Nat.succ_add_eq_add_succ]
    exact ih (start + 1)

end Walk

namespace Cluster

variable {c : Cluster}

/-- A part of a cluster that can be asked for. -/
inductive Part where
  | shard (index : Nat)
  | replica (index : Nat)
  | host (shard replica : Nat)
  deriving DecidableEq

/-- Creates a part where it is missing. -/
def ensure (c : Cluster) : Part → Cluster
  | .shard s => c.ensureShard s
  | .replica r => c.ensureReplica r
  | .host s r => c.ensureHost s r

theorem index_ensure (c : Cluster) (part : Part) : (c.ensure part).index = c.index := by
  cases part with
  | shard _ => rfl
  | replica _ => rfl
  | host s r =>
    simp only [ensure, ensureHost]
    split <;> rfl

/-- A step puts at most one host in, which has its place for an id, and leaves the others. -/
theorem inPlace_ensure (h : c.InPlace) (part : Part) : (c.ensure part).InPlace := by
  cases part with
  | shard s => exact h
  | replica r => exact h
  | host s r =>
    intro s' r' host hhost
    rw [index_ensure]
    rw [ensure, host?_ensureHost] at hhost
    split at hhost
    · next hplace =>
      obtain ⟨rfl, rfl⟩ := hplace
      obtain rfl := Option.some.inj hhost
      cases hfound : c.host? s r with
      | none => rfl
      | some old => exact h hfound
    · exact h hhost

theorem isSome_host?_ensure (c : Cluster) (part : Part) (s r : Nat) :
    ((c.ensure part).host? s r).isSome = true ↔
      (c.host? s r).isSome = true ∨ part = .host s r := by
  cases part with
  | shard _ => exact (or_iff_left nofun).symm
  | replica _ => exact (or_iff_left nofun).symm
  | host s' r' =>
    rw [ensure, host?_ensureHost, Part.host.injEq]
    split
    · next h => exact iff_of_true rfl (.inr h)
    · next h => exact (or_iff_left h).symm

theorem inPlace_foldl (h : c.InPlace) (parts : List Part) : (parts.foldl ensure c).InPlace := by
  induction parts generalizing c with
  | nil => exact h
  | cons part rest ih => exact ih (inPlace_ensure h part)

theorem index_foldl (c : Cluster) (parts : List Part) : (parts.foldl ensure c).index = c.index := by
  induction parts generalizing c with
  | nil => rfl
  | cons part rest ih => exact (ih (c.ensure part)).trans (index_ensure c part)

theorem isSome_host?_foldl (c : Cluster) (parts : List Part) (s r : Nat) :
    ((parts.foldl ensure c).host? s r).isSome = true ↔
      (c.host? s r).isSome = true ∨ .host s r ∈ parts := by
  induction parts generalizing c with
  | nil => exact (or_iff_left List.not_mem_nil).symm
  | cons part rest ih =>
    rw [List.foldl_cons, ih, isSome_host?_ensure, or_assoc, List.mem_cons, eq_comm (a := part)]

section ByReplica

theorem mem_replicaHosts_iff {r : Nat} {host : Host} :
    host ∈ c.replicaHosts r ↔ ∃ s, c.host? s r = some host := by
  simp only [replicaHosts, List.mem_filterMap, Option.join_eq_some_iff, host?_eq_some]
  constructor
  · rintro ⟨row, hrow, hcell⟩
    obtain ⟨s, hs⟩ := List.mem_iff_getElem?.1 hrow
    exact ⟨s, row, hs, hcell⟩
  · rintro ⟨s, row, hs, hcell⟩
    exact ⟨row, List.mem_of_getElem? hs, hcell⟩

theorem mem_hostsByReplica_iff {host : Host} :
    host ∈ c.hostsByReplica ↔ ∃ s r, c.host? s r = some host := by
  simp only [hostsByReplica, List.mem_flatMap, List.mem_range, mem_replicaHosts_iff]
  constructor
  · rintro ⟨r, -, s, h⟩
    exact ⟨s, r, h⟩
  · rintro ⟨s, r, h⟩
    obtain ⟨row, hrow, hcell⟩ := host?_eq_some.1 h
    have hlength : row.length ≤ c.width :=
      (foldl_max_le_iff.1 (Nat.le_refl c.width)).2 _
        (List.mem_map_of_mem (List.mem_of_getElem? hrow))
    exact ⟨r, Nat.lt_of_lt_of_le (List.getElem?_eq_some_iff.1 hcell).1 hlength, s, h⟩

/-- The hosts of a replica differ in the shard. -/
theorem InPlace.ascending_replicaHosts (h : c.InPlace) (r : Nat) :
    (c.replicaHosts r).Pairwise fun a b => a.id.BeforeByReplicas b.id := by
  refine List.pairwise_filterMap.2 (List.pairwise_iff_getElem.2 fun i j hi hj hlt => ?_)
  intro a ha b hb
  have place {s : Nat} {host : Host} (hs : s < c.rows.length)
      (hhost : c.rows[s][r]?.join = some host) : host.id = ⟨c.index, s, r⟩ :=
    h (host?_eq_some.2 ⟨_, List.getElem?_eq_getElem hs, Option.join_eq_some_iff.1 hhost⟩)
  rw [place hi ha, place hj hb]
  exact .inr ⟨rfl, hlt⟩

theorem InPlace.ascending_hostsByReplica (h : c.InPlace) :
    c.hostsByReplica.Pairwise fun a b => a.id.BeforeByReplicas b.id := by
  refine List.pairwise_flatMap.2 ⟨fun r _ => h.ascending_replicaHosts r, ?_⟩
  refine List.pairwise_lt_range.imp fun {r r'} hlt a ha b hb => ?_
  obtain ⟨s, ha⟩ := mem_replicaHosts_iff.1 ha
  obtain ⟨s', hb⟩ := mem_replicaHosts_iff.1 hb
  rw [h ha, h hb]
  exact .inl hlt

end ByReplica

/-- The items are the hosts of a cluster. Each is there once, is found at the place that its id
tells, and comes in the order of the ids. -/
structure Lists (c : Cluster) (before : HostId → HostId → Prop) (items : List Host) : Prop where
  mem_iff (host : Host) : host ∈ items ↔ c.host? host.id.shard host.id.replica = some host
  nodup : items.Nodup
  ascending : items.Pairwise fun a b => before a.id b.id

theorem InPlace.mem_place_iff (h : c.InPlace) {host : Host} :
    (∃ s r, c.host? s r = some host) ↔
      c.host? host.id.shard host.id.replica = some host := by
  constructor
  · rintro ⟨s, r, hplace⟩
    rw [h hplace]
    exact hplace
  · exact fun hplace => ⟨_, _, hplace⟩

theorem InPlace.lists_hosts (h : c.InPlace) : c.Lists HostId.BeforeByShards c.hosts where
  mem_iff _ := mem_hosts_iff.trans h.mem_place_iff
  nodup := h.ascending_hosts.imp fun hlt heq => hlt.ne (congrArg Host.id heq)
  ascending := h.ascending_hosts

theorem InPlace.lists_hostsByReplica (h : c.InPlace) :
    c.Lists HostId.BeforeByReplicas c.hostsByReplica where
  mem_iff _ := mem_hostsByReplica_iff.trans h.mem_place_iff
  nodup := h.ascending_hostsByReplica.imp fun hlt heq => hlt.ne (congrArg Host.id heq)
  ascending := h.ascending_hostsByReplica

/-- The walks over the hosts of a cluster visit the same hosts, shard by shard or replica by
replica, and have an outcome for each. -/
structure WalksOnce (c : Cluster) : Prop where
  byShards : c.Lists HostId.BeforeByShards c.hosts
  byReplicas : c.Lists HostId.BeforeByReplicas c.hostsByReplica
  same : c.hostsByReplica.Perm c.hosts
  walkHosts {σ : Type} (visit : Host → StateM σ (Outcome Unit)) :
    Walk.Visits (c.walkHosts visit) c.hosts visit
  walkHostsByShards {σ : Type} (visit : Nat → Nat → Host → StateM σ (Outcome Unit)) :
    Walk.Visits (c.walkHostsByShards visit) c.hosts
      fun host => visit host.id.shard host.id.replica host
  walkHostsByReplicas {σ : Type} (visit : Nat → Nat → Host → StateM σ (Outcome Unit)) :
    Walk.Visits (c.walkHostsByReplicas visit) c.hostsByReplica
      fun host => visit host.id.shard host.id.replica host
  size_walkHosts {σ : Type} (visit : Host → StateM σ (Outcome Unit)) (start : σ) :
    (c.walkHosts visit start).1.size = c.hostsCount
  size_walkHostsBy {σ : Type} (visit : Nat → Nat → Host → StateM σ (Outcome Unit)) (start : σ) :
    (c.walkHostsByShards visit start).1.size = c.hostsCount ∧
      (c.walkHostsByReplicas visit start).1.size = c.hostsCount
  counted : (c.walkHosts Walk.tally 0).2 = c.hostsCount

theorem InPlace.perm_hosts (h : c.InPlace) : c.hostsByReplica.Perm c.hosts := by
  refine (List.perm_ext_iff_of_nodup h.lists_hostsByReplica.nodup h.lists_hosts.nodup).2 ?_
  exact fun host => mem_hostsByReplica_iff.trans mem_hosts_iff.symm

theorem InPlace.walksOnce (h : c.InPlace) : c.WalksOnce where
  byShards := h.lists_hosts
  byReplicas := h.lists_hostsByReplica
  same := h.perm_hosts
  walkHosts _ := Walk.visits_along ..
  walkHostsByShards _ := Walk.visits_along ..
  walkHostsByReplicas _ := Walk.visits_along ..
  size_walkHosts visit start := (Walk.visits_along c.hosts visit).size start
  size_walkHostsBy visit start := by
    refine ⟨(Walk.visits_along c.hosts _).size start, ?_⟩
    exact ((Walk.visits_along c.hostsByReplica _).size start).trans h.perm_hosts.length_eq
  counted := by
    rw [Cluster.walkHosts, (Walk.visits_along c.hosts _).state, Walk.after_tally, Nat.zero_add]
    rfl

/-- Asks a new cluster for parts, one after the other. -/
def built (name ns installation : String) (index : Nat) (parts : List Part) : Cluster :=
  parts.foldl ensure { name, index, ns, installation }

/-- Whatever parts a cluster has been asked for, in whatever order, it has the hosts among them,
each at its place, and its walks visit each of them once. -/
theorem walksOnce_built (name ns installation : String) (index : Nat) (parts : List Part) :
    (∀ s r, ((built name ns installation index parts).host? s r).isSome = true ↔
      .host s r ∈ parts) ∧
    (∀ s r host, (built name ns installation index parts).host? s r = some host →
      host.id = ⟨index, s, r⟩) ∧
    (built name ns installation index parts).WalksOnce := by
  have start : ({ name, index, ns, installation } : Cluster).InPlace := nofun
  have inPlace : (built name ns installation index parts).InPlace := inPlace_foldl start parts
  have hindex : (built name ns installation index parts).index = index := index_foldl _ parts
  refine ⟨fun s r => ?_, fun s r host hhost => ?_, inPlace.walksOnce⟩
  · exact (isSome_host?_foldl _ parts s r).trans (or_iff_right nofun)
  · rw [inPlace hhost, hindex]

/-- Rows of different lengths with a hole in them, and a shard and a replica without hosts. -/
def ragged : Cluster :=
  built "main" "prod" "chi" 0 [.host 2 1, .shard 4, .host 0 0, .host 0 3, .replica 5, .host 2 1]

/-- Notes the places in front of those it has seen before, and fails in the first shard. -/
def note (s r : Nat) (host : Host) : StateM (List (Nat × Nat)) (Outcome Unit) := fun seen =>
  (if s = 0 then .error (.internal "walk" host.name) else .ok (), (s, r) :: seen)

theorem walksOnce_built_ragged :
    (ragged.host? 2 1).isSome = true ∧ ragged.host? 2 0 = none ∧
      (ragged.walkHostsByShards note []).2 = [(2, 1), (0, 3), (0, 0)] ∧
      (ragged.walkHostsByReplicas note []).2 = [(0, 3), (2, 1), (0, 0)] ∧
      (ragged.walkHostsByReplicas note []).1.size = ragged.hostsCount ∧
      ((ragged.walkHostsByReplicas note []).1.outcomes.map (·.isOk)) = [false, true, false] := by
  obtain ⟨hplaces, -, hwalks⟩ := walksOnce_built "main" "prod" "chi" 0
    [.host 2 1, .shard 4, .host 0 0, .host 0 3, .replica 5, .host 2 1]
  have hnone : ragged.host? 2 0 = none := by
    rw [← Option.not_isSome_iff_eq_none]
    exact fun h => absurd ((hplaces 2 0).1 h) (by decide)
  refine ⟨(hplaces 2 1).2 (by decide), hnone, ?_, ?_, (hwalks.size_walkHostsBy note []).2, ?_⟩
  · exact ((hwalks.walkHostsByShards note).state []).trans (by decide)
  · exact ((hwalks.walkHostsByReplicas note).state []).trans (by decide)
  · decide

end Cluster

end ShardOperator
