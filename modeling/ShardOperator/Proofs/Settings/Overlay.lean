import ShardOperator.Declaration.TemplateNames
import ShardOperator.Proofs.Settings.Made

namespace ShardOperator

/-- The laws of laying one value over another. To fill in is to override the other way round, and
neither repeating a merge nor grouping merges otherwise makes a difference. -/
structure Overlays {α : Type} (merge : α → α → MergePolicy → α) : Prop where
  dual (a b : α) : merge a b .fillEmpty = merge b a .override
  idempotent (a : α) (policy : MergePolicy) : merge a a policy = a
  repeated (a b : α) (policy : MergePolicy) :
    merge (merge a b policy) b policy = merge a b policy
  associative (a b c : α) (policy : MergePolicy) :
    merge (merge a b policy) c policy = merge a (merge b c policy) policy

namespace MergePolicy

variable {β : Type} (policy : MergePolicy) (a b c : Option β)

theorem pick_self : policy.pick a a = a := by
  cases policy <;> exact Option.or_self

theorem pick_assoc : policy.pick (policy.pick a b) c = policy.pick a (policy.pick b c) := by
  cases policy with
  | fillEmpty => exact Option.or_assoc
  | override => exact Option.or_assoc.symm

theorem pick_pick : policy.pick (policy.pick a b) b = policy.pick a b := by
  rw [pick_assoc, pick_self]

end MergePolicy

/-- Values are merged part by part, and a value is told by its parts. -/
structure MergesParts {α β ι : Type} (merge : α → α → MergePolicy → α) (part : ι → α → Option β) :
    Prop where
  part_merge (i : ι) (a b : α) (policy : MergePolicy) :
    part i (merge a b policy) = policy.pick (part i a) (part i b)
  ext {a b : α} (h : ∀ i, part i a = part i b) : a = b

/-- Each law holds of the parts, and so of the whole. -/
theorem MergesParts.overlays {α β ι : Type} {merge : α → α → MergePolicy → α}
    {part : ι → α → Option β} (h : MergesParts merge part) : Overlays merge where
  dual a b := by
    refine h.ext fun i => ?_
    rw [h.part_merge, h.part_merge]
    rfl
  idempotent a policy := by
    refine h.ext fun i => ?_
    rw [h.part_merge, MergePolicy.pick_self]
  repeated a b policy := by
    refine h.ext fun i => ?_
    rw [h.part_merge, h.part_merge, MergePolicy.pick_pick]
  associative a b c policy := by
    refine h.ext fun i => ?_
    rw [h.part_merge, h.part_merge, h.part_merge, h.part_merge, MergePolicy.pick_assoc]

namespace Settings

theorem mergesParts : MergesParts merge fun path s => s.entries.find? path where
  part_merge path a b policy := a.find?_merge b policy path
  ext h := congrArg Settings.mk (SortedMap.ext_find? h)

/-- The settings that a condition on paths and values accepts, set one after the other. -/
def accepted (s : Settings) (accepts : String → Setting → Bool) : Settings :=
  ofPairs (s.entries.entries.filter fun entry => accepts entry.1 entry.2)

theorem Made.accepted_eq {s : Settings} (h : s.Made) (accepts : String → Setting → Bool) :
    s.accepted accepts = ⟨s.entries.filter accepts⟩ := by
  have hcanonical : ∀ entry ∈ s.entries.entries.filter (fun e => accepts e.1 e.2),
      canonical entry.1 = entry.1 := by
    intro entry hentry
    exact h.canonical_of_mem (List.mem_of_mem_filter hentry)
  rw [accepted, ofPairs_of_canonical hcanonical]
  exact congrArg Settings.mk (SortedMap.ofList_entries (s.entries.filter accepts))

theorem get?_accepted {s : Settings} (h : s.Made) (accepts : String → Setting → Bool)
    (path : String) :
    (s.accepted accepts).get? path = (s.get? path).filter (accepts (canonical path)) := by
  rw [h.accepted_eq]
  exact s.entries.find?_filter accepts (canonical path)

end Settings

namespace TemplateNames

/-- The names of a record, each by what reads it. -/
def fields : List (TemplateNames → Option String) :=
  [(·.hostTemplate), (·.podTemplate), (·.dataVolumeClaimTemplate), (·.logVolumeClaimTemplate),
    (·.serviceTemplate), (·.clusterServiceTemplate), (·.shardServiceTemplate),
    (·.replicaServiceTemplate)]

theorem field_merge {field : TemplateNames → Option String} (h : field ∈ fields)
    (a b : TemplateNames) (policy : MergePolicy) :
    field (a.merge b policy) = policy.pick (field a) (field b) := by
  simp only [fields, List.mem_cons, List.not_mem_nil, or_false] at h
  rcases h with rfl | rfl | rfl | rfl | rfl | rfl | rfl | rfl <;> rfl

theorem ext_fields {a b : TemplateNames} (h : ∀ field ∈ fields, field a = field b) : a = b := by
  obtain ⟨_, _, _, _, _, _, _, _⟩ := a
  obtain ⟨_, _, _, _, _, _, _, _⟩ := b
  simpa [fields] using h

theorem mergesParts :
    MergesParts merge fun (field : { field // field ∈ fields }) names => field.1 names where
  part_merge field a b policy := field_merge field.2 a b policy
  ext h := ext_fields fun field hfield => h ⟨field, hfield⟩

end TemplateNames

open Settings in
/-- Merging settings, and merging template names, are lawful overlays. A path, or a name, has the
value of the side that the policy prefers if it is there, and otherwise that of the other. A
condition on the source counts as if the source had only what the condition accepts. A merge is a
value of its own: both sides stay what they were. -/
theorem merges_lawful :
    Overlays Settings.merge ∧ Overlays TemplateNames.merge ∧
    (∀ (a b : Settings) (path : String),
      (a.merge b .fillEmpty).get? path = (a.get? path).or (b.get? path) ∧
      (a.merge b .override).get? path = (b.get? path).or (a.get? path)) ∧
    (∀ (a b : Settings) (accepts : String → Setting → Bool), b.Made →
      a.mergeIf b accepts = a.merge (b.accepted accepts) .fillEmpty ∧
      ∀ path, (b.accepted accepts).get? path = (b.get? path).filter (accepts (canonical path))) ∧
    ∀ field ∈ TemplateNames.fields, ∀ a b : TemplateNames,
      field (a.merge b .fillEmpty) = (field a).or (field b) ∧
      field (a.merge b .override) = (field b).or (field a) := by
  refine ⟨Settings.mergesParts.overlays, TemplateNames.mergesParts.overlays, ?_, ?_, ?_⟩
  · intro a b path
    exact ⟨Settings.mergesParts.part_merge (canonical path) a b .fillEmpty,
      Settings.mergesParts.part_merge (canonical path) a b .override⟩
  · intro a b accepts hb
    refine ⟨?_, get?_accepted hb accepts⟩
    rw [hb.accepted_eq, mergeIf_eq]
    rfl
  · intro field hfield a b
    exact ⟨TemplateNames.field_merge hfield a b .fillEmpty,
      TemplateNames.field_merge hfield a b .override⟩

/-- What a host sets, and the shard above it. -/
def ownLevel : Settings := .ofPairs [("logger/level", .scalar "trace"), ("host/a.xml", .scalar "")]

def shardLevel : Settings :=
  .ofPairs [("/logger/ level", .scalar "error"), ("HOST/b.xml", .vector []), ("z", .scalar "26")]

theorem merges_lawful_levels :
    shardLevel.Made ∧
      ownLevel.merge shardLevel .fillEmpty = shardLevel.merge ownLevel .override ∧
      (ownLevel.merge shardLevel .fillEmpty).get? "logger/level" = some (.scalar "trace") ∧
      (ownLevel.merge shardLevel .override).get? "logger/level" = some (.scalar "error") ∧
      ownLevel.mergeIf shardLevel (fun path _ => Settings.Section.isHost path) =
        ownLevel.merge (shardLevel.accepted fun path _ => Settings.Section.isHost path)
          .fillEmpty ∧
      (shardLevel.accepted fun path _ => Settings.Section.isHost path).get? "HOST/b.xml" =
        some (.vector []) ∧
      (shardLevel.accepted fun path _ => Settings.Section.isHost path).get? "z" = none ∧
      TemplateNames.podTemplate ∈ TemplateNames.fields ∧
      (TemplateNames.merge { podTemplate := some "own" } { podTemplate := some "shard" }
        .override).podTemplate = some "shard" := by
  have hmade : shardLevel.Made := .ofPairs _
  have hpod : TemplateNames.podTemplate ∈ TemplateNames.fields :=
    List.mem_cons_of_mem _ (List.mem_cons_self ..)
  obtain ⟨hsettings, -, hlook, haccepted, hfields⟩ := merges_lawful
  obtain ⟨hif, hleft⟩ :=
    haccepted ownLevel shardLevel (fun path _ => Settings.Section.isHost path) hmade
  refine ⟨hmade, hsettings.dual .., ?_, ?_, hif, ?_, ?_, hpod, (hfields _ hpod _ _).2⟩
  · rw [(hlook ..).1]
    decide
  · rw [(hlook ..).2]
    decide
  · rw [hleft]
    decide
  · rw [hleft]
    decide

end ShardOperator
