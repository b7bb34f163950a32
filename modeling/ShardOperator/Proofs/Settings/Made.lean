import ShardOperator.Proofs.Json.ReadBack
import ShardOperator.Proofs.Text.Pieces
import ShardOperator.Settings.Basic

namespace ShardOperator

theorem MergePolicy.pick_eq_some {β : Type} {policy : MergePolicy} {own source : Option β}
    {value : β} (h : policy.pick own source = some value) :
    own = some value ∨ source = some value := by
  cases policy with
  | fillEmpty => exact (Option.or_eq_some_iff.1 h).imp_right And.right
  | override => exact ((Option.or_eq_some_iff.1 h).imp_right And.right).symm

namespace Settings

theorem find?_merge (s source : Settings) (policy : MergePolicy) (path : String) :
    (s.merge source policy).entries.find? path =
      policy.pick (s.entries.find? path) (source.entries.find? path) := by
  cases policy with
  | fillEmpty => exact s.entries.find?_fill source.entries path
  | override => exact s.entries.find?_override source.entries path

/-- To skip what is not accepted, entry by entry, is to fill in what is left without it. -/
theorem mergeIf_eq (s source : Settings) (accepts : String → Setting → Bool) :
    s.mergeIf source accepts = ⟨s.entries.fill (source.entries.filter accepts)⟩ := by
  refine congrArg Settings.mk (List.foldl_filter.trans ?_).symm
  refine congrArg (List.foldl · s.entries source.entries.entries) (funext₂ fun own entry => ?_)
  cases accepts entry.1 entry.2 <;> cases own.contains entry.1 <;> rfl

theorem find?_mergeIf (s source : Settings) (accepts : String → Setting → Bool) (path : String) :
    (s.mergeIf source accepts).entries.find? path =
      (s.entries.find? path).or ((source.entries.find? path).filter (accepts path)) := by
  rw [mergeIf_eq, SortedMap.find?_fill, SortedMap.find?_filter]

section Paths

/-- The segments of a path that its canonical spelling joins. -/
def segments (path : String) : List String :=
  ((Text.split '/' path).map Text.trim).filter (· ≠ "")

/-- A text that a path can have for a segment and keep as it is. -/
structure IsSegment (text : String) : Prop where
  ne_empty : text ≠ ""
  trimmed : Text.trim text = text
  whole : '/' ∉ text.toList

theorem isSegment_of_mem_segments {path text : String} (h : text ∈ segments path) :
    IsSegment text := by
  obtain ⟨hmem, hempty⟩ := List.mem_filter.1 h
  obtain ⟨piece, hpiece, rfl⟩ := List.mem_map.1 hmem
  refine ⟨of_decide_eq_true hempty, Text.trim_trim piece, fun hslash => ?_⟩
  unfold Text.trim at hslash
  rw [String.toList_ofList] at hslash
  exact Text.not_mem_of_mem_split hpiece ((Text.trimChars_sublist _).mem hslash)

theorem segments_join {texts : List String} (h : ∀ text ∈ texts, IsSegment text) :
    segments (Text.join "/" texts) = texts := by
  cases texts with
  | nil => decide
  | cons first rest =>
    have hsplit : Text.split '/' (Text.join "/" (first :: rest)) = first :: rest :=
      Text.split_join rfl nofun fun text htext => (h text htext).whole
    have htrim : (first :: rest).map Text.trim = first :: rest :=
      (List.map_congr_left fun text htext => (h text htext).trimmed).trans (List.map_id _)
    unfold segments
    rw [hsplit, htrim, List.filter_eq_self]
    exact fun text htext => decide_eq_true (h text htext).ne_empty

theorem canonical_canonical (path : String) : canonical (canonical path) = canonical path := by
  have hsegments : segments (canonical path) = segments path :=
    segments_join fun _ => isSegment_of_mem_segments
  exact congrArg (Text.join "/") hsegments

end Paths

/-- Settings that the operations on settings put together. -/
inductive Made : Settings → Prop
  | empty : Made empty
  | set {s : Settings} (h : Made s) (path : String) (value : Setting) : Made (s.set path value)
  | merge {s source : Settings} (h : Made s) (hsource : Made source) (policy : MergePolicy) :
    Made (s.merge source policy)
  | mergeIf {s source : Settings} (h : Made s) (hsource : Made source)
    (accepts : String → Setting → Bool) : Made (s.mergeIf source accepts)

/-- To set paths is to insert them in their canonical spelling. -/
theorem ofPairs_eq (pairs : List (String × Setting)) :
    ofPairs pairs = ⟨.ofList (pairs.map fun pair => (canonical pair.1, pair.2))⟩ := by
  have hfold (start : Settings) : pairs.foldl (fun s p => s.set p.1 p.2) start =
      ⟨start.entries.insertAll (pairs.map fun pair => (canonical pair.1, pair.2))⟩ := by
    induction pairs generalizing start with
    | nil => rfl
    | cons pair rest ih => exact ih (start.set pair.1 pair.2)
  exact hfold empty

/-- Where paths have their canonical spelling, they are inserted as they are. -/
theorem ofPairs_of_canonical {pairs : List (String × Setting)}
    (h : ∀ pair ∈ pairs, canonical pair.1 = pair.1) : ofPairs pairs = ⟨.ofList pairs⟩ := by
  have hsame : pairs.map (fun pair => (canonical pair.1, pair.2)) = pairs.map id :=
    List.map_congr_left fun pair hpair => Prod.ext (h pair hpair) rfl
  rw [ofPairs_eq, hsame, List.map_id]

namespace Made

theorem ofPairs (pairs : List (String × Setting)) : Made (ofPairs pairs) := by
  have hfold (s : Settings) (h : Made s) : Made (pairs.foldl (fun s p => s.set p.1 p.2) s) := by
    induction pairs generalizing s with
    | nil => exact h
    | cons pair rest ih => exact ih _ (h.set ..)
  exact hfold _ .empty

theorem of_ofJson? {value : Json} {s : Settings} (h : ofJson? value = some s) : Made s := by
  obtain ⟨raw, -, rfl⟩ := Option.map_eq_some_iff.1 h
  exact .ofPairs _

variable {s : Settings}

/-- No operation stores a value under another spelling of its path than the canonical one. -/
theorem canonical_of_find? (h : Made s) {path : String} {value : Setting}
    (hfind : s.entries.find? path = some value) : canonical path = path := by
  induction h generalizing path value with
  | empty => cases hfind
  | @set s h other stored ih =>
    rw [Settings.set, SortedMap.find?_insert] at hfind
    split at hfind
    · next hpath =>
      rw [← hpath]
      exact canonical_canonical other
    · exact ih hfind
  | @merge s source h hsource policy ih ihsource =>
    rw [find?_merge] at hfind
    exact (MergePolicy.pick_eq_some hfind).elim ih ihsource
  | @mergeIf s source h hsource accepts ih ihsource =>
    rw [find?_mergeIf] at hfind
    rcases Option.or_eq_some_iff.1 hfind with hown | ⟨-, hother⟩
    · exact ih hown
    · exact ihsource (Option.filter_eq_some_iff.1 hother).1

theorem canonical_of_mem (h : Made s) {entry : String × Setting}
    (hentry : entry ∈ s.entries.entries) : canonical entry.1 = entry.1 :=
  h.canonical_of_find? (SortedMap.find?_of_mem hentry)

/-- Settings are what setting their entries one after another makes. -/
theorem ofPairs_entries (h : Made s) : Settings.ofPairs s.entries.entries = s := by
  rw [ofPairs_of_canonical fun _ => h.canonical_of_mem]
  exact congrArg Settings.mk (SortedMap.ofList_entries s.entries)

end Made

end Settings

theorem Setting.ofJson?_toJson (value : Setting) : ofJson? value.toJson = some value := by
  cases value with
  | scalar value => rfl
  | vector values =>
    have hvalues : (values.map Json.str).mapM scalarText? = some values :=
      mapM_map_eq_some fun _ _ => rfl
    change Option.map Setting.vector ((values.map Json.str).mapM scalarText?) = _
    rw [hvalues, Option.map_some]

/-- Reading spells each path as it is spelled already. -/
theorem Settings.Made.readsBack {s : Settings} (h : s.Made) :
    Json.ReadsBack ofJson? toJson s where
  read_write := by
    have hmap : Json.ReadsBack (Json.map? Setting.ofJson?) (.ofMap Setting.toJson) s.entries :=
      Json.readsBack_map fun entry _ => entry.2.ofJson?_toJson
    unfold ofJson? toJson
    rw [hmap.read_write, Option.map_some, h.ofPairs_entries]
  write_ne_null := nofun

end ShardOperator
