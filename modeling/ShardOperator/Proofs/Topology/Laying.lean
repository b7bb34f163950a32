import ShardOperator.Proofs.Topology.Extents

namespace ShardOperator

theorem getElem?_map_range {α : Type} (f : Nat → α) (n k : Nat) :
    ((List.range n).map f)[k]? = if k < n then some (f k) else none := by
  rw [List.getElem?_map]
  split
  · next h => rw [List.getElem?_range h, Option.map_some]
  · next h =>
    rw [List.getElem?_eq_none (by simpa using h), Option.map_none]

/-- What each round of a loop takes from one number of rounds to the next holds after all of
them. -/
theorem foldl_range_induction {α : Type} {motive : Nat → α → Prop} {f : α → Nat → α} {start : α}
    {n : Nat} (zero : motive 0 start)
    (succ : ∀ k < n, ∀ state, motive k state → motive (k + 1) (f state k)) :
    motive n ((List.range n).foldl f start) := by
  induction n with
  | zero => exact zero
  | succ n ih =>
    rw [List.range_succ, List.foldl_append]
    exact succ n (Nat.lt_succ_self n) _ (ih fun k hk => succ k (Nat.lt_succ_of_lt hk))

theorem map_range_succ {α : Type} (f : Nat → α) (n : Nat) :
    (List.range (n + 1)).map f = (List.range n).map f ++ [f n] := by
  rw [List.range_succ, List.map_append, List.map_singleton]

namespace Cluster

variable {c : Cluster}

section Extending

variable {α : Type} (items : List α) (index n : Nat) (make : Nat → α)

theorem getElem?_extend : (extend items index make)[n]? =
    if n ≤ index then some (items[n]?.getD (make n)) else items[n]? := by
  unfold extend
  rw [List.getElem?_append, getElem?_map_range]
  by_cases hn : n < items.length
  · rw [if_pos hn, List.getElem?_eq_getElem hn, Option.getD_some, ite_self]
  · rw [if_neg hn, List.getElem?_eq_none (Nat.not_lt.1 hn), Option.getD_none]
    refine if_congr (by omega) ?_ rfl
    rw [Nat.add_sub_cancel' (Nat.not_lt.1 hn)]

theorem length_extend : (extend items index make).length = max items.length (index + 1) := by
  rw [extend, List.length_append, List.length_map, List.length_range]
  omega

variable {index} in
theorem extend_eq_self (h : index < items.length) : extend items index make = items := by
  rw [extend, Nat.sub_eq_zero_of_le h]
  exact List.append_nil items

theorem extend_map_range : extend ((List.range n).map make) index make =
    (List.range (max n (index + 1))).map make := by
  refine List.ext_getElem? fun k => ?_
  rw [getElem?_extend, getElem?_map_range, getElem?_map_range]
  by_cases hk : k < n
  · rw [if_pos hk, if_pos (Nat.lt_of_lt_of_le hk (Nat.le_max_left ..)), Option.getD_some, ite_self]
  · rw [if_neg hk, Option.getD_none]
    exact if_congr (by omega) rfl rfl

/-- The item that comes next is made and changed. -/
theorem modify_extend (f : α → α) : (extend items items.length make).modify items.length f =
    items ++ [f (make items.length)] := by
  have hextend : extend items items.length make = items ++ [make items.length] := by
    rw [extend, Nat.add_sub_cancel_left]
    rfl
  rw [hextend, List.modify_eq_take_drop, List.take_left, List.drop_left]
  rfl

theorem ensureShard_eq_self {s : Nat} (h : s < c.shards.length) : c.ensureShard s = c := by
  rw [ensureShard, extend_eq_self _ _ h]

theorem ensureReplica_eq_self {r : Nat} (h : r < c.replicas.length) : c.ensureReplica r = c := by
  rw [ensureReplica, extend_eq_self _ _ h]

end Extending

section Cells

theorem host?_eq_some {s r : Nat} {host : Host} :
    c.host? s r = some host ↔ ∃ row, c.rows[s]? = some row ∧ row[r]? = some (some host) := by
  simp only [host?, Option.join_eq_some_iff, Option.bind_eq_some_iff]

theorem mem_hosts_iff {host : Host} : host ∈ c.hosts ↔ ∃ s r, c.host? s r = some host := by
  simp only [hosts, List.mem_flatMap, List.mem_filterMap, id, exists_eq_right, host?_eq_some]
  constructor
  · rintro ⟨row, hrow, hcell⟩
    obtain ⟨s, hs⟩ := List.mem_iff_getElem?.1 hrow
    obtain ⟨r, hr⟩ := List.mem_iff_getElem?.1 hcell
    exact ⟨s, r, row, hs, hr⟩
  · rintro ⟨s, r, row, hs, hr⟩
    exact ⟨row, List.mem_of_getElem? hs, List.mem_of_getElem? hr⟩

/-- A cell beyond the end of a row is empty like one that no host has been put in. -/
theorem join_getElem?_set (row : List (Option Host)) (r r' : Nat) (new : Option Host) :
    ((extend row r fun _ => none).set r new)[r']?.join =
      if r = r' then new else row[r']?.join := by
  have hlength : r < (extend row r fun _ => none).length := by
    rw [length_extend]
    omega
  rw [List.getElem?_set]
  by_cases h : r = r'
  · rw [if_pos h, if_pos h, if_pos hlength, Option.join_some]
  · rw [if_neg h, if_neg h, getElem?_extend]
    split
    · cases row[r']? <;> rfl
    · rfl

/-- To put something in one cell leaves every other cell as it is. -/
theorem host?_setCell (c : Cluster) (s r : Nat) (new : Option Host) (s' r' : Nat) :
    host? { c with rows := setCell c.rows s r new } s' r' =
      if s = s' ∧ r = r' then new else c.host? s' r' := by
  have hrow : (c.rows[s']?.bind (·[r']?)).join = (c.rows[s']?.getD [])[r']?.join := by
    cases c.rows[s']? <;> rfl
  unfold host? setCell
  rw [List.getElem?_modify, getElem?_extend, hrow]
  by_cases hs : s = s'
  · subst hs
    simp only [Nat.le_refl, ↓reduceIte, Option.map_eq_map, Option.map_some, Option.bind_some,
      join_getElem?_set, true_and]
  · simp only [hs, ↓reduceIte, false_and, id_map']
    split
    · rfl
    · exact hrow

theorem host?_ensureHost (c : Cluster) (s r s' r' : Nat) :
    (c.ensureHost s r).host? s' r' = if s = s' ∧ r = r'
      then some ((c.host? s r).getD (((c.ensureShard s).ensureReplica r).newHost s r))
      else c.host? s' r' := by
  have hsame : ((c.ensureShard s).ensureReplica r).host? s r = c.host? s r := rfl
  unfold ensureHost
  simp only [hsame]
  cases hfound : c.host? s r with
  | some host =>
    by_cases h : s = s' ∧ r = r'
    · obtain ⟨rfl, rfl⟩ := h
      rw [if_pos ⟨rfl, rfl⟩]
      exact hfound
    · rw [if_neg h]
      rfl
  | none => exact host?_setCell ((c.ensureShard s).ensureReplica r) s r _ s' r'

theorem host?_modifyHost (c : Cluster) (s r : Nat) (f : Host → Host) (s' r' : Nat) :
    (c.modifyHost s r f).host? s' r' =
      if s = s' ∧ r = r' then (c.host? s r).map f else c.host? s' r' := by
  unfold host? modifyHost
  rw [List.getElem?_modify]
  by_cases hs : s = s'
  · subst hs
    cases c.rows[s]? with
    | none => simp
    | some row =>
      by_cases hr : r = r'
      · subst hr
        rcases h : row[r]? with _ | _ | _ <;> simp [h]
      · simp [hr]
  · simp [hs]

theorem host?_resolveHost (c : Cluster) (s r : Nat) (spec : Option HostSpec) (parent : Parent)
    (defaults : HostDefaults) (s' r' : Nat) :
    (c.resolveHost s r spec parent defaults).host? s' r' = if s = s' ∧ r = r'
      then some (((c.host? s r).getD (((c.ensureShard s).ensureReplica r).newHost s r)).resolve
        spec parent defaults)
      else c.host? s' r' := by
  rw [resolveHost, host?_modifyHost]
  by_cases h : s = s' ∧ r = r'
  · rw [if_pos h, if_pos h, host?_ensureHost, if_pos ⟨rfl, rfl⟩]
    rfl
  · rw [if_neg h, if_neg h, host?_ensureHost, if_neg h]

theorem length_rows_resolveHost (c : Cluster) (s r : Nat) (spec : Option HostSpec) (parent : Parent)
    (defaults : HostDefaults) :
    (c.resolveHost s r spec parent defaults).rows.length ≤ max c.rows.length (s + 1) := by
  unfold resolveHost modifyHost ensureHost
  rw [List.length_modify]
  dsimp only
  split
  · exact Nat.le_max_left ..
  · refine Nat.le_of_eq ?_
    simp only [setCell, List.length_modify, length_extend]
    rfl

theorem resolveHost_frame (c : Cluster) (s r : Nat) (spec : Option HostSpec) (parent : Parent)
    (defaults : HostDefaults) : c.resolveHost s r spec parent defaults =
      { (c.ensureShard s).ensureReplica r with
        rows := (c.resolveHost s r spec parent defaults).rows } := by
  unfold resolveHost modifyHost ensureHost
  dsimp only
  split <;> rfl

end Cells

section Declared

/-- What is declared about a shard that is new. -/
def declaredShard (c : Cluster) (index : Nat) (spec : Option ShardSpec) : Shard :=
  (Shard.unnamed index).resolve spec c.parent

def declaredReplica (c : Cluster) (index : Nat) (spec : Option ReplicaSpec) : Replica :=
  (Replica.unnamed index).resolve spec c.parent

/-- A host that nothing is declared about, whose shard and replica have these names. -/
def freshHost (c : Cluster) (s r : Nat) (shard replica : String) : Host where
  id := ⟨c.index, s, r⟩
  address := {
    ns := c.ns
    installation := c.installation
    cluster := c.name
    clusterIndex := c.index
    shard
    shardIndex := s
    replica
    replicaIndex := r
    host := shard ++ "-" ++ replica }

/-- What a layout by shards makes of the host at a place. -/
def hostByShards (c : Cluster) (l : LayoutSpec) (defaults : HostDefaults) (s r : Nat) : Host :=
  let shard := c.declaredShard s l.shards[s]?
  (c.freshHost s r shard.name (toString r)).resolve (l.shards[s]?.bind (·.replicas[r]?))
    shard.parent defaults

/-- What a layout by replicas makes of the host at a place. -/
def hostByReplicas (c : Cluster) (l : LayoutSpec) (defaults : HostDefaults) (s r : Nat) : Host :=
  let replica := c.declaredReplica r l.replicas[r]?
  (c.freshHost s r (toString s) replica.name).resolve (l.replicas[r]?.bind (·.shards[s]?))
    replica.parent defaults

end Declared

/-- What has been laid out in a cluster so far: its shards and replicas, and a host at each place
that is covered. There are no rows beyond the shards. -/
structure Laid (base : Cluster) (shards : List Shard) (replicas : List Replica)
    (covers : Nat → Nat → Prop) (host : Nat → Nat → Host) (c : Cluster) : Prop where
  frame : c = { base with shards := shards, replicas := replicas, rows := c.rows }
  host?_iff : ∀ {s r found}, c.host? s r = some found ↔ covers s r ∧ found = host s r
  height : c.rows.length ≤ shards.length

/-- Nothing has been laid out yet. -/
def Bare (c : Cluster) : Prop := c.shards = [] ∧ c.replicas = [] ∧ c.rows = []

namespace Laid

variable {base : Cluster} {shards : List Shard} {replicas : List Replica}
  {covers : Nat → Nat → Prop} {host : Nat → Nat → Host} {l : LayoutSpec} {defaults : HostDefaults}

theorem of_bare (h : c.Bare) (host : Nat → Nat → Host) :
    Laid c [] [] (fun _ _ => False) host c := by
  obtain ⟨hshards, hreplicas, hrows⟩ := h
  refine ⟨by rw [← hshards, ← hreplicas], ?_, by rw [hrows]; exact Nat.le_refl 0⟩
  intro s r found
  rw [host?, hrows]
  exact iff_of_false nofun fun h => h.1

theorem shards_eq (h : Laid base shards replicas covers host c) : c.shards = shards :=
  congrArg Cluster.shards h.frame

theorem replicas_eq (h : Laid base shards replicas covers host c) : c.replicas = replicas :=
  congrArg Cluster.replicas h.frame

theorem parent_eq (h : Laid base shards replicas covers host c) : c.parent = base.parent :=
  (congrArg Cluster.parent h.frame).trans rfl

theorem newHost_eq (h : Laid base shards replicas covers host c) {s r : Nat} {shard : Shard}
    {replica : Replica} (hs : shards[s]? = some shard) (hr : replicas[r]? = some replica) :
    c.newHost s r = base.freshHost s r shard.name replica.name := by
  rw [h.frame]
  simp only [newHost, shardName, replicaName, hs, hr]
  rfl

theorem congr (h : Laid base shards replicas covers host c) {others : Nat → Nat → Prop}
    (hcovers : ∀ s r, others s r ↔ covers s r) : Laid base shards replicas others host c :=
  ⟨h.frame, h.host?_iff.trans (and_congr_left fun _ => (hcovers _ _).symm), h.height⟩

/-- The shard that comes next is created and resolved. -/
theorem resolveShard (h : Laid base shards replicas covers host c) {s : Nat}
    (hs : shards.length = s) (spec : Option ShardSpec) :
    Laid base (shards ++ [base.declaredShard s spec]) replicas covers host
      (c.resolveShard s spec) := by
  subst hs
  have hshards : (c.resolveShard shards.length spec).shards =
      shards ++ [base.declaredShard shards.length spec] := by
    have hparent : (c.ensureShard shards.length).parent = base.parent := h.parent_eq
    rw [Cluster.resolveShard, hparent, ensureShard, h.shards_eq]
    exact modify_extend ..
  refine ⟨?_, h.host?_iff, ?_⟩
  · rw [← hshards, h.frame]
    rfl
  · rw [List.length_append]
    exact Nat.le_add_right_of_le h.height

theorem resolveReplica (h : Laid base shards replicas covers host c) {r : Nat}
    (hr : replicas.length = r) (spec : Option ReplicaSpec) :
    Laid base shards (replicas ++ [base.declaredReplica r spec]) covers host
      (c.resolveReplica r spec) := by
  subst hr
  have hreplicas : (c.resolveReplica replicas.length spec).replicas =
      replicas ++ [base.declaredReplica replicas.length spec] := by
    have hparent : (c.ensureReplica replicas.length).parent = base.parent := h.parent_eq
    rw [Cluster.resolveReplica, hparent, ensureReplica, h.replicas_eq]
    exact modify_extend ..
  refine ⟨?_, h.host?_iff, h.height⟩
  rw [← hreplicas, h.frame]
  rfl

/-- Shards without names of their own are created up to the one that is asked for. -/
theorem ensureShard {n : Nat}
    (h : Laid base ((List.range n).map .unnamed) replicas covers host c) (s : Nat) :
    Laid base ((List.range (max n (s + 1))).map .unnamed) replicas covers host
      (c.ensureShard s) := by
  refine ⟨?_, h.host?_iff, ?_⟩
  · rw [← extend_map_range, h.frame]
    rfl
  · refine Nat.le_trans h.height ?_
    simp only [List.length_map, List.length_range]
    exact Nat.le_max_left ..

theorem ensureReplica {n : Nat}
    (h : Laid base shards ((List.range n).map .unnamed) covers host c) (r : Nat) :
    Laid base shards ((List.range (max n (r + 1))).map .unnamed) covers host
      (c.ensureReplica r) := by
  refine ⟨?_, h.host?_iff, h.height⟩
  rw [← extend_map_range, h.frame]
  rfl

/-- A host is created where there is none, with the names of its shard and replica, and resolved. -/
theorem resolveHost (h : Laid base shards replicas covers host c) {s r : Nat} {shard : Shard}
    {replica : Replica} (hs : shards[s]? = some shard) (hr : replicas[r]? = some replica)
    (hfree : ¬covers s r) {spec : Option HostSpec} {parent : Parent}
    (hhost : host s r =
      (base.freshHost s r shard.name replica.name).resolve spec parent defaults) :
    Laid base shards replicas (fun s' r' => covers s' r' ∨ s' = s ∧ r' = r) host
      (c.resolveHost s r spec parent defaults) := by
  have hshard : s < shards.length := (List.getElem?_eq_some_iff.1 hs).1
  have hsame : (c.ensureShard s).ensureReplica r = c := by
    have hreplica : r < c.replicas.length := h.replicas_eq ▸ (List.getElem?_eq_some_iff.1 hr).1
    rw [ensureShard_eq_self (h.shards_eq ▸ hshard), ensureReplica_eq_self hreplica]
  have hnone : c.host? s r = none :=
    Option.eq_none_iff_forall_ne_some.2 fun found hfound => hfree (h.host?_iff.1 hfound).1
  refine ⟨?_, fun {s' r' found} => ?_, ?_⟩
  · rw [resolveHost_frame, hsame, h.frame]
  · rw [host?_resolveHost, hsame, hnone, Option.getD_none, h.newHost_eq hs hr, ← hhost]
    by_cases hplace : s = s' ∧ r = r'
    · obtain ⟨rfl, rfl⟩ := hplace
      rw [if_pos ⟨rfl, rfl⟩, Option.some.injEq, eq_comm]
      exact (and_iff_right (.inr ⟨rfl, rfl⟩)).symm
    · have hother : ¬(s' = s ∧ r' = r) := fun heq => hplace ⟨heq.1.symm, heq.2.symm⟩
      rw [if_neg hplace, h.host?_iff, or_iff_left hother]
  · exact Nat.le_trans (length_rows_resolveHost ..) (Nat.max_le.2 ⟨h.height, hshard⟩)

/-- The hosts of one shard are created one after the other, and missing replicas with them. -/
theorem hostsOfShard {n : Nat} (h : Laid base shards ((List.range n).map .unnamed) covers host c)
    {s : Nat} {shard : Shard} (hs : shards[s]? = some shard) (hfree : ∀ r, ¬covers s r)
    (spec : Nat → Option HostSpec) {parent : Parent} (hhost : ∀ r, host s r =
      (base.freshHost s r shard.name (toString r)).resolve (spec r) parent defaults)
    (length : Nat) :
    Laid base shards ((List.range (max n length)).map .unnamed)
      (fun s' r => covers s' r ∨ s' = s ∧ r < length) host
      ((List.range length).foldl (fun c r =>
        (c.ensureReplica r).resolveHost s r (spec r) parent defaults) c) := by
  refine foldl_range_induction (motive := fun k c =>
    Laid base shards ((List.range (max n k)).map .unnamed)
      (fun s' r => covers s' r ∨ s' = s ∧ r < k) host c) ?_ fun k _ c h => ?_
  · rw [Nat.max_zero]
    exact h.congr fun s' r => or_iff_left fun h => Nat.not_lt_zero r h.2
  · have hreplicas := h.ensureReplica k
    rw [Nat.max_assoc, Nat.max_eq_right (Nat.le_succ k)] at hreplicas
    have hr : ((List.range (max n (k + 1))).map Replica.unnamed)[k]? = some (.unnamed k) := by
      rw [getElem?_map_range, if_pos (by omega)]
    have hnew : ¬(covers s k ∨ s = s ∧ k < k) := by
      rintro (hcovers | ⟨-, hlt⟩)
      · exact hfree k hcovers
      · exact Nat.lt_irrefl k hlt
    refine (hreplicas.resolveHost hs hr hnew (hhost k)).congr fun s' r => ?_
    rw [or_assoc, ← and_or_left, Nat.lt_succ_iff_lt_or_eq]

/-- The hosts of one replica are created one after the other, and missing shards with them. -/
theorem hostsOfReplica {n : Nat}
    (h : Laid base ((List.range n).map .unnamed) replicas covers host c) {r : Nat}
    {replica : Replica} (hr : replicas[r]? = some replica) (hfree : ∀ s, ¬covers s r)
    (spec : Nat → Option HostSpec) {parent : Parent} (hhost : ∀ s, host s r =
      (base.freshHost s r (toString s) replica.name).resolve (spec s) parent defaults)
    (length : Nat) :
    Laid base ((List.range (max n length)).map .unnamed) replicas
      (fun s r' => covers s r' ∨ s < length ∧ r' = r) host
      ((List.range length).foldl (fun c s =>
        (c.ensureShard s).resolveHost s r (spec s) parent defaults) c) := by
  refine foldl_range_induction (motive := fun k c =>
    Laid base ((List.range (max n k)).map .unnamed) replicas
      (fun s r' => covers s r' ∨ s < k ∧ r' = r) host c) ?_ fun k _ c h => ?_
  · rw [Nat.max_zero]
    exact h.congr fun s r' => or_iff_left fun h => Nat.not_lt_zero s h.1
  · have hshards := h.ensureShard k
    rw [Nat.max_assoc, Nat.max_eq_right (Nat.le_succ k)] at hshards
    have hs : ((List.range (max n (k + 1))).map Shard.unnamed)[k]? = some (.unnamed k) := by
      rw [getElem?_map_range, if_pos (by omega)]
    have hnew : ¬(covers k r ∨ k < k ∧ r = r) := by
      rintro (hcovers | ⟨hlt, -⟩)
      · exact hfree k hcovers
      · exact Nat.lt_irrefl k hlt
    refine (hshards.resolveHost hs hr hnew (hhost k)).congr fun s r' => ?_
    rw [or_assoc, ← or_and_right, Nat.lt_succ_iff_lt_or_eq]

theorem layShard {s : Nat}
    (h : Laid base ((List.range s).map fun s => base.declaredShard s l.shards[s]?)
      ((List.range (Extent.longest ⟨s, l.shardLines.length⟩)).map .unnamed)
      (fun s' r => s' < s ∧ r < l.shardLines.length s') (base.hostByShards l defaults) c) :
    Laid base ((List.range (s + 1)).map fun s => base.declaredShard s l.shards[s]?)
      ((List.range (Extent.longest ⟨s + 1, l.shardLines.length⟩)).map .unnamed)
      (fun s' r => s' < s + 1 ∧ r < l.shardLines.length s') (base.hostByShards l defaults)
      (c.layShard l defaults s) := by
  have resolved := h.resolveShard (by rw [List.length_map, List.length_range]) l.shards[s]?
  rw [← map_range_succ] at resolved
  have hs : ((List.range (s + 1)).map fun s => base.declaredShard s l.shards[s]?)[s]? =
      some (base.declaredShard s l.shards[s]?) := by
    rw [getElem?_map_range, if_pos (Nat.lt_succ_self s)]
  have laid := resolved.hostsOfShard hs (fun r hcovers => Nat.lt_irrefl s hcovers.1)
    (fun r => l.shards[s]?.bind (·.replicas[r]?)) (fun r => rfl) (l.shardLines.length s)
  rw [Cluster.layShard, LayoutSpec.rowLength_eq, resolved.shards_eq, hs, Option.getD_some,
    Extent.longest_succ]
  refine laid.congr fun s' r => ?_
  rw [Nat.lt_succ_iff_lt_or_eq, or_and_right]
  exact or_congr_right (and_congr_right fun heq => by rw [heq])

theorem layReplica {r : Nat}
    (h : Laid base ((List.range (Extent.longest ⟨r, l.replicaLines.length⟩)).map .unnamed)
      ((List.range r).map fun r => base.declaredReplica r l.replicas[r]?)
      (fun s r' => r' < r ∧ s < l.replicaLines.length r') (base.hostByReplicas l defaults) c) :
    Laid base ((List.range (Extent.longest ⟨r + 1, l.replicaLines.length⟩)).map .unnamed)
      ((List.range (r + 1)).map fun r => base.declaredReplica r l.replicas[r]?)
      (fun s r' => r' < r + 1 ∧ s < l.replicaLines.length r') (base.hostByReplicas l defaults)
      (c.layReplica l defaults r) := by
  have resolved := h.resolveReplica (by rw [List.length_map, List.length_range]) l.replicas[r]?
  rw [← map_range_succ] at resolved
  have hr : ((List.range (r + 1)).map fun r => base.declaredReplica r l.replicas[r]?)[r]? =
      some (base.declaredReplica r l.replicas[r]?) := by
    rw [getElem?_map_range, if_pos (Nat.lt_succ_self r)]
  have laid := resolved.hostsOfReplica hr (fun s hcovers => Nat.lt_irrefl r hcovers.1)
    (fun s => l.replicas[r]?.bind (·.shards[s]?)) (fun s => rfl) (l.replicaLines.length r)
  rw [Cluster.layReplica, LayoutSpec.columnLength_eq, resolved.replicas_eq, hr, Option.getD_some,
    Extent.longest_succ]
  refine laid.congr fun s r' => ?_
  rw [Nat.lt_succ_iff_lt_or_eq, or_and_right, and_comm (a := s < _)]
  exact or_congr_right (and_congr_right fun heq => by rw [heq])

end Laid

/-- What a layout by shards makes of a cluster that has nothing in it. -/
theorem laid_layByShards (h : c.Bare) (l : LayoutSpec) (defaults : HostDefaults) :
    c.Laid ((List.range l.shardLines.lines).map fun s => c.declaredShard s l.shards[s]?)
      ((List.range l.shardLines.longest).map .unnamed)
      (fun s r => s < l.shardLines.lines ∧ r < l.shardLines.length s)
      (c.hostByShards l defaults) (c.layByShards l defaults) := by
  refine foldl_range_induction (motive := fun lines state =>
    c.Laid ((List.range lines).map fun s => c.declaredShard s l.shards[s]?)
      ((List.range (Extent.longest ⟨lines, l.shardLines.length⟩)).map .unnamed)
      (fun s r => s < lines ∧ r < l.shardLines.length s) (c.hostByShards l defaults) state)
    ?_ fun _ _ _ laid => laid.layShard
  exact (Laid.of_bare h _).congr fun s r => iff_of_false (fun h => Nat.not_lt_zero s h.1) id

/-- What a layout by replicas makes of a cluster that has nothing in it. -/
theorem laid_layByReplicas (h : c.Bare) (l : LayoutSpec) (defaults : HostDefaults) :
    c.Laid ((List.range l.replicaLines.longest).map .unnamed)
      ((List.range l.replicaLines.lines).map fun r => c.declaredReplica r l.replicas[r]?)
      (fun s r => r < l.replicaLines.lines ∧ s < l.replicaLines.length r)
      (c.hostByReplicas l defaults) (c.layByReplicas l defaults) := by
  refine foldl_range_induction (motive := fun lines state =>
    c.Laid ((List.range (Extent.longest ⟨lines, l.replicaLines.length⟩)).map .unnamed)
      ((List.range lines).map fun r => c.declaredReplica r l.replicas[r]?)
      (fun s r => r < lines ∧ s < l.replicaLines.length r) (c.hostByReplicas l defaults) state)
    ?_ fun _ _ _ laid => laid.layReplica
  exact (Laid.of_bare h _).congr fun s r => iff_of_false (fun h => Nat.not_lt_zero r h.1) id

section OfSpec

/-- The cluster before its hosts are laid out. -/
def unlaid (i : Installation) (spec : ClusterSpec) (index : Nat) : Cluster :=
  let c : Cluster := {
    name := spec.name
    index
    ns := i.ns
    installation := i.name
    settings := spec.settings
    files := spec.files
    templates := spec.templates.getD {} }
  (c.inheritTemplates i.defaults).inheritFiles i.files

theorem bare_unlaid (i : Installation) (spec : ClusterSpec) (index : Nat) :
    (unlaid i spec index).Bare := ⟨rfl, rfl, rfl⟩

/-- What a layout makes of a shard. Where replicas are laid out, it has no name of its own. -/
def shardAt (c : Cluster) (l : LayoutSpec) (s : Nat) : Shard :=
  if l.ByShards then c.declaredShard s l.shards[s]? else .unnamed s

def replicaAt (c : Cluster) (l : LayoutSpec) (r : Nat) : Replica :=
  if l.ByShards then .unnamed r else c.declaredReplica r l.replicas[r]?

theorem index_shardAt (c : Cluster) (l : LayoutSpec) (s : Nat) : (c.shardAt l s).index = s := by
  unfold shardAt
  split <;> rfl

theorem index_replicaAt (c : Cluster) (l : LayoutSpec) (r : Nat) :
    (c.replicaAt l r).index = r := by
  unfold replicaAt
  split <;> rfl

/-- What an installation makes of the host at a place. -/
def declaredHost (i : Installation) (spec : ClusterSpec) (index : Nat) (defaults : HostDefaults)
    (s r : Nat) : Host :=
  if spec.layout.ByShards then (unlaid i spec index).hostByShards spec.layout defaults s r
  else (unlaid i spec index).hostByReplicas spec.layout defaults s r

variable {i : Installation} {spec : ClusterSpec} {index : Nat} {defaults : HostDefaults}

theorem id_declaredHost (i : Installation) (spec : ClusterSpec) (index : Nat)
    (defaults : HostDefaults) (s r : Nat) :
    (declaredHost i spec index defaults s r).id = ⟨index, s, r⟩ := by
  unfold declaredHost
  split <;> rfl

theorem ofSpec_eq : ofSpec i spec index defaults =
    if spec.layout.ByShards then (unlaid i spec index).layByShards spec.layout defaults
    else (unlaid i spec index).layByReplicas spec.layout defaults := by
  unfold ofSpec
  by_cases h : spec.layout.ByShards
  · rw [if_pos h, if_neg]
    · rfl
    · rcases h with h | h <;> simp [h]
  · rw [if_neg h, if_pos]
    · rfl
    · simpa [LayoutSpec.ByShards] using h

/-- Where a list is made of a range, what stands at an index is told by the index. -/
theorem getElem?_eq_some_of_range {α : Type} {items : List α} {n : Nat} {f : Nat → α}
    (h : items = (List.range n).map f) {k : Nat} {item : α} :
    items[k]? = some item ↔ k < n ∧ item = f k := by
  rw [h, getElem?_map_range, Option.ite_none_right_eq_some, Option.some.injEq, eq_comm (a := item)]

theorem laid_ofSpec_of_byShards (h : spec.layout.ByShards) :
    let c := unlaid i spec index
    c.Laid ((List.range spec.layout.shardLines.lines).map
        fun s => c.declaredShard s spec.layout.shards[s]?)
      ((List.range spec.layout.shardLines.longest).map .unnamed) spec.layout.Covers
      (declaredHost i spec index defaults) (ofSpec i spec index defaults) := by
  have hhost : declaredHost i spec index defaults =
      (unlaid i spec index).hostByShards spec.layout defaults := by
    funext s r
    exact if_pos h
  rw [ofSpec_eq, if_pos h, hhost]
  exact (laid_layByShards (bare_unlaid i spec index) spec.layout defaults).congr
    fun s r => LayoutSpec.covers_iff_shardLines h

theorem laid_ofSpec_of_byReplicas (h : ¬spec.layout.ByShards) :
    let c := unlaid i spec index
    c.Laid ((List.range spec.layout.replicaLines.longest).map .unnamed)
      ((List.range spec.layout.replicaLines.lines).map
        fun r => c.declaredReplica r spec.layout.replicas[r]?) spec.layout.Covers
      (declaredHost i spec index defaults) (ofSpec i spec index defaults) := by
  have hhost : declaredHost i spec index defaults =
      (unlaid i spec index).hostByReplicas spec.layout defaults := by
    funext s r
    exact if_neg h
  rw [ofSpec_eq, if_neg h, hhost]
  exact (laid_layByReplicas (bare_unlaid i spec index) spec.layout defaults).congr
    fun s r => LayoutSpec.covers_iff_replicaLines h

theorem laid_ofSpec (i : Installation) (spec : ClusterSpec) (index : Nat)
    (defaults : HostDefaults) :
    (unlaid i spec index).Laid (ofSpec i spec index defaults).shards
      (ofSpec i spec index defaults).replicas spec.layout.Covers
      (declaredHost i spec index defaults) (ofSpec i spec index defaults) := by
  by_cases h : spec.layout.ByShards
  · have laid : (unlaid i spec index).Laid _ _ _ _ (ofSpec i spec index defaults) :=
      laid_ofSpec_of_byShards h
    rwa [laid.shards_eq, laid.replicas_eq]
  · have laid : (unlaid i spec index).Laid _ _ _ _ (ofSpec i spec index defaults) :=
      laid_ofSpec_of_byReplicas h
    rwa [laid.shards_eq, laid.replicas_eq]

/-- A cluster has the shards that its layout covers a place of, each as it is declared. -/
theorem shard_ofSpec {s : Nat} {shard : Shard} :
    (ofSpec i spec index defaults).shards[s]? = some shard ↔
      (∃ r, spec.layout.Covers s r) ∧ shard = (unlaid i spec index).shardAt spec.layout s := by
  by_cases h : spec.layout.ByShards
  · rw [getElem?_eq_some_of_range (laid_ofSpec_of_byShards h).shards_eq, shardAt, if_pos h]
    simp only [LayoutSpec.covers_iff_shardLines h]
    have hfirst := (spec.layout.length_pos s).1
    exact and_congr_left fun _ => ⟨fun hs => ⟨0, hs, hfirst⟩, fun ⟨_, hs, _⟩ => hs⟩
  · rw [getElem?_eq_some_of_range (laid_ofSpec_of_byReplicas h).shards_eq, shardAt, if_neg h,
      Extent.lt_longest_iff]
    simp only [LayoutSpec.covers_iff_replicaLines h]

theorem replica_ofSpec {r : Nat} {replica : Replica} :
    (ofSpec i spec index defaults).replicas[r]? = some replica ↔
      (∃ s, spec.layout.Covers s r) ∧ replica = (unlaid i spec index).replicaAt spec.layout r := by
  by_cases h : spec.layout.ByShards
  · rw [getElem?_eq_some_of_range (laid_ofSpec_of_byShards h).replicas_eq, replicaAt, if_pos h,
      Extent.lt_longest_iff]
    simp only [LayoutSpec.covers_iff_shardLines h]
  · rw [getElem?_eq_some_of_range (laid_ofSpec_of_byReplicas h).replicas_eq, replicaAt, if_neg h]
    simp only [LayoutSpec.covers_iff_replicaLines h]
    have hfirst := (spec.layout.length_pos r).2
    exact and_congr_left fun _ => ⟨fun hr => ⟨0, hr, hfirst⟩, fun ⟨_, hr, _⟩ => hr⟩

theorem frame_ofSpec (i : Installation) (spec : ClusterSpec) (index : Nat)
    (defaults : HostDefaults) : ∃ shards replicas rows, ofSpec i spec index defaults =
      { unlaid i spec index with shards := shards, replicas := replicas, rows := rows } :=
  ⟨_, _, _, (laid_ofSpec i spec index defaults).frame⟩

theorem index_ofSpec (i : Installation) (spec : ClusterSpec) (index : Nat)
    (defaults : HostDefaults) : (ofSpec i spec index defaults).index = index := by
  obtain ⟨shards, replicas, rows, h⟩ := frame_ofSpec i spec index defaults
  rw [h]
  rfl

theorem name_ofSpec (i : Installation) (spec : ClusterSpec) (index : Nat)
    (defaults : HostDefaults) : (ofSpec i spec index defaults).name = spec.name := by
  obtain ⟨shards, replicas, rows, h⟩ := frame_ofSpec i spec index defaults
  rw [h]
  rfl

theorem host?_ofSpec {s r : Nat} {host : Host} :
    (ofSpec i spec index defaults).host? s r = some host ↔
      spec.layout.Covers s r ∧ host = declaredHost i spec index defaults s r :=
  (laid_ofSpec i spec index defaults).host?_iff

theorem isSome_host?_ofSpec {s r : Nat} :
    ((ofSpec i spec index defaults).host? s r).isSome = true ↔ spec.layout.Covers s r := by
  rw [Option.isSome_iff_exists]
  simp only [host?_ofSpec, exists_and_left, exists_eq, and_true]

/-- A host has its shard and its replica, and its address tells both. -/
theorem address_ofSpec {s r : Nat} {host : Host}
    (h : (ofSpec i spec index defaults).host? s r = some host) :
    ∃ shard replica, (ofSpec i spec index defaults).shards[s]? = some shard ∧
      (ofSpec i spec index defaults).replicas[r]? = some replica ∧
      host.address = {
        ns := i.ns
        installation := i.name
        cluster := spec.name
        clusterIndex := index
        shard := shard.name
        shardIndex := s
        replica := replica.name
        replicaIndex := r
        host := host.name } := by
  obtain ⟨hcovers, rfl⟩ := host?_ofSpec.1 h
  refine ⟨_, _, shard_ofSpec.2 ⟨⟨r, hcovers⟩, rfl⟩, replica_ofSpec.2 ⟨⟨s, hcovers⟩, rfl⟩, ?_⟩
  unfold declaredHost shardAt replicaAt
  by_cases hby : spec.layout.ByShards
  · simp only [if_pos hby]
    rfl
  · simp only [if_neg hby]
    rfl

end OfSpec

end Cluster

end ShardOperator
