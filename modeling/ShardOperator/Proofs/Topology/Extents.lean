import Mathlib.Logic.Basic
import ShardOperator.Topology.Normal

namespace ShardOperator

/-- A number of lines, and how many places each of them has. -/
structure Extent where
  lines : Nat
  length : Nat → Nat

theorem foldl_max_le_iff {lengths : List Nat} {least bound : Nat} :
    lengths.foldl max least ≤ bound ↔ least ≤ bound ∧ ∀ length ∈ lengths, length ≤ bound := by
  induction lengths generalizing least with
  | nil => exact ⟨fun h => ⟨h, nofun⟩, And.left⟩
  | cons head rest ih =>
    rw [List.foldl_cons, ih, Nat.max_le, List.forall_mem_cons, and_assoc]

namespace Extent

/-- The length of the longest line. -/
def longest (e : Extent) : Nat := ((List.range e.lines).map e.length).foldl max 0

theorem lt_longest_iff {e : Extent} {n : Nat} :
    n < e.longest ↔ ∃ line < e.lines, n < e.length line := by
  have hbound : e.longest ≤ n ↔ ∀ line < e.lines, e.length line ≤ n := by
    rw [longest, foldl_max_le_iff, List.forall_mem_map]
    simp only [List.mem_range, Nat.zero_le, true_and]
  rw [← Nat.not_le, hbound]
  simp only [Classical.not_forall, Nat.not_le, exists_prop]

theorem longest_succ (lines : Nat) (length : Nat → Nat) :
    longest ⟨lines + 1, length⟩ = max (longest ⟨lines, length⟩) (length lines) := by
  simp only [longest, List.range_succ, List.map_append, List.foldl_append]
  rfl

end Extent

namespace LayoutSpec

/-- A count that is left out counts as zero. -/
def given (count : Option UInt32) : Nat := (count.map (·.toNat)).getD 0

/-- Listed shards, or the absence of listed replicas, lay a cluster out by shards. -/
def ByShards (l : LayoutSpec) : Prop := l.shards ≠ [] ∨ l.replicas = []

instance (l : LayoutSpec) : Decidable l.ByShards := inferInstanceAs (Decidable (_ ∨ _))

/-- The shards of a layout by shards, with as many replicas as are declared of each or of all. -/
def shardLines (l : LayoutSpec) : Extent where
  lines := max (max (given l.shardsCount) l.shards.length) 1
  length s :=
    let shard := l.shards[s]?
    let listed := (shard.map (·.replicas.length)).getD 0
    max (max (max (given (shard.bind (·.replicasCount))) listed) (given l.replicasCount)) 1

/-- The replicas of a layout by replicas, with as many shards as are declared of each or of all. -/
def replicaLines (l : LayoutSpec) : Extent where
  lines := max (max (given l.replicasCount) l.replicas.length) 1
  length r :=
    let replica := l.replicas[r]?
    let listed := (replica.map (·.shards.length)).getD 0
    max (max (max (given (replica.bind (·.shardsCount))) listed) (given l.shardsCount)) 1

/-- The lines that a layout lists. -/
def extent (l : LayoutSpec) : Extent := if l.ByShards then l.shardLines else l.replicaLines

/-- The layout has a host at the place of a shard and a replica. -/
def Covers (l : LayoutSpec) (s r : Nat) : Prop :=
  if l.ByShards then s < l.shardLines.lines ∧ r < l.shardLines.length s
  else r < l.replicaLines.lines ∧ s < l.replicaLines.length r

theorem covers_iff_shardLines {l : LayoutSpec} (h : l.ByShards) {s r : Nat} :
    l.Covers s r ↔ s < l.shardLines.lines ∧ r < l.shardLines.length s := by
  rw [Covers, if_pos h]

theorem covers_iff_replicaLines {l : LayoutSpec} (h : ¬l.ByShards) {s r : Nat} :
    l.Covers s r ↔ r < l.replicaLines.lines ∧ s < l.replicaLines.length r := by
  rw [Covers, if_neg h]

/-- What is declared of the host at the place of a shard and a replica. -/
def hostSpec (l : LayoutSpec) (s r : Nat) : HostSpec :=
  (if l.ByShards then l.shards[s]?.bind (·.replicas[r]?)
    else l.replicas[r]?.bind (·.shards[s]?)).getD {}

theorem rowLength_eq (l : LayoutSpec) (s : Nat) :
    Cluster.rowLength l l.shards[s]? = l.shardLines.length s := by
  simp only [Cluster.rowLength, shardLines, declaredCount, given]
  cases l.shards[s]? with
  | none =>
    simp only [Option.map_none, Option.bind_none, Option.getD_none]
    omega
  | some line =>
    simp only [Option.map_some, Option.bind_some, Option.getD_some]
    omega

theorem columnLength_eq (l : LayoutSpec) (r : Nat) :
    Cluster.columnLength l l.replicas[r]? = l.replicaLines.length r := by
  simp only [Cluster.columnLength, replicaLines, declaredCount, given]
  cases l.replicas[r]? with
  | none =>
    simp only [Option.map_none, Option.bind_none, Option.getD_none]
    omega
  | some line =>
    simp only [Option.map_some, Option.bind_some, Option.getD_some]
    omega

theorem length_pos (l : LayoutSpec) (n : Nat) :
    0 < l.shardLines.length n ∧ 0 < l.replicaLines.length n := by
  simp only [shardLines, replicaLines]
  omega

theorem covers_zero (l : LayoutSpec) : l.Covers 0 0 := by
  unfold Covers
  split
  · exact ⟨Nat.le_max_right .., (l.length_pos 0).1⟩
  · exact ⟨Nat.le_max_right .., (l.length_pos 0).2⟩

end LayoutSpec

end ShardOperator
