import Mathlib.Data.List.DropRight
import ShardOperator.Text.Blank
import ShardOperator.Text.Pieces

namespace ShardOperator.Text

section Pieces

variable {sep : Char} {piece : List Char}

theorem splitChars_of_not_mem (h : sep ∉ piece) : splitChars sep piece = [piece] := by
  induction piece with
  | nil => rfl
  | cons c rest ih =>
    obtain ⟨hfirst, hrest⟩ := not_or.1 (mt List.mem_cons.2 h)
    unfold splitChars
    rw [if_neg (Ne.symm hfirst), ih hrest]

theorem splitChars_append (h : sep ∉ piece) (rest : List Char) :
    splitChars sep (piece ++ sep :: rest) = piece :: splitChars sep rest := by
  induction piece with
  | nil =>
    rw [List.nil_append, splitChars, if_pos rfl]
  | cons c more ih =>
    obtain ⟨hfirst, hmore⟩ := not_or.1 (mt List.mem_cons.2 h)
    rw [List.cons_append, splitChars, if_neg (Ne.symm hfirst), ih hmore]

theorem not_mem_of_mem_splitChars {cs : List Char} (h : piece ∈ splitChars sep cs) :
    sep ∉ piece := by
  induction cs generalizing piece with
  | nil =>
    obtain rfl := List.mem_singleton.1 h
    exact List.not_mem_nil
  | cons c rest ih =>
    unfold splitChars at h
    split at h
    · rcases List.mem_cons.1 h with rfl | h
      · exact List.not_mem_nil
      · exact ih h
    · next hc =>
      cases hrest : splitChars sep rest with
      | nil => exact absurd hrest (splitChars_ne_nil sep rest)
      | cons first more =>
        rw [hrest] at h ih
        rcases List.mem_cons.1 h with rfl | h
        · exact List.not_mem_cons_of_ne_of_not_mem (Ne.symm hc) (ih (List.mem_cons_self ..))
        · exact ih (List.mem_cons_of_mem _ h)

/-- Pieces without the separator are told apart again after they have been joined. -/
theorem splitChars_joinChars {pieces : List (List Char)} (hpieces : pieces ≠ [])
    (h : ∀ piece ∈ pieces, sep ∉ piece) : splitChars sep (joinChars [sep] pieces) = pieces := by
  induction pieces with
  | nil => exact absurd rfl hpieces
  | cons first rest ih =>
    obtain ⟨hfirst, hrest⟩ := List.forall_mem_cons.1 h
    cases rest with
    | nil => exact splitChars_of_not_mem hfirst
    | cons next more =>
      have hjoin : joinChars [sep] (first :: next :: more) =
          first ++ sep :: joinChars [sep] (next :: more) := List.append_cons .. |>.symm
      rw [hjoin, splitChars_append hfirst, ih nofun hrest]

theorem mem_joinChars {sep : List Char} {pieces : List (List Char)} {c : Char}
    (h : c ∈ joinChars sep pieces) : c ∈ sep ∨ ∃ piece ∈ pieces, c ∈ piece := by
  induction pieces with
  | nil => cases h
  | cons first rest ih =>
    cases rest with
    | nil => exact .inr ⟨first, List.mem_cons_self .., h⟩
    | cons next more =>
      rw [joinChars, List.mem_append, List.mem_append] at h
      · rcases h with (h | h) | h
        · exact .inr ⟨first, List.mem_cons_self .., h⟩
        · exact .inl h
        · rcases ih h with h | ⟨piece, hpiece, h⟩
          · exact .inl h
          · exact .inr ⟨piece, List.mem_cons_of_mem _ hpiece, h⟩
      · exact List.cons_ne_nil next more

theorem toList_join (glue : String) (pieces : List String) :
    (join glue pieces).toList = joinChars glue.toList (pieces.map String.toList) := by
  induction pieces with
  | nil => rfl
  | cons first rest ih =>
    cases rest with
    | nil => rfl
    | cons next more =>
      rw [join, String.toList_append, String.toList_append, ih]
      · rfl
      · exact nofun

theorem split_join {glue : String} (hglue : glue.toList = [sep]) {pieces : List String}
    (hpieces : pieces ≠ []) (h : ∀ piece ∈ pieces, sep ∉ piece.toList) :
    split sep (join glue pieces) = pieces := by
  have hchars : ∀ piece ∈ pieces.map String.toList, sep ∉ piece := List.forall_mem_map.2 h
  unfold split
  rw [toList_join, hglue, splitChars_joinChars (mt List.map_eq_nil_iff.1 hpieces) hchars,
    List.map_map]
  exact (List.map_congr_left fun _ _ => String.ofList_toList).trans (List.map_id pieces)

theorem not_mem_of_mem_split {s piece : String} (h : piece ∈ split sep s) : sep ∉ piece.toList := by
  obtain ⟨chars, hchars, rfl⟩ := List.mem_map.1 h
  rw [String.toList_ofList]
  exact not_mem_of_mem_splitChars hchars

/-- A text is told from every other by its pieces. -/
theorem split_inj {a b : String} : split sep a = split sep b ↔ a = b := by
  refine ⟨fun h => ?_, congrArg _⟩
  have hpieces : splitChars sep a.toList = splitChars sep b.toList :=
    (List.map_inj_right fun _ _ => String.ofList_inj.1).1 h
  rw [← String.toList_inj, ← joinChars_splitChars sep a.toList, hpieces, joinChars_splitChars]

/-- Lines come back from a text in which a line feed follows each of them, unless a carriage return
at the end of one is taken for a part of the line's end. -/
theorem lineChars_ended {lines : List (List Char)} (hfeed : ∀ line ∈ lines, '\n' ∉ line)
    (hreturn : ∀ line ∈ lines, line.getLast? ≠ some '\r') :
    lineChars (lines.flatMap (· ++ ['\n'])) = lines := by
  have hsplit : splitChars '\n' (lines.flatMap (· ++ ['\n'])) = lines ++ [[]] := by
    clear hreturn
    induction lines with
    | nil => rfl
    | cons line rest ih =>
      obtain ⟨hline, hrest⟩ := List.forall_mem_cons.1 hfeed
      rw [List.flatMap_cons, List.append_assoc, List.singleton_append, splitChars_append hline,
        ih hrest, List.cons_append]
  have hkept : lines.map (fun line =>
      if line.getLast? = some '\r' then line.dropLast else line) = lines := by
    refine (List.map_congr_left fun line hline => ?_).trans (List.map_id lines)
    exact if_neg (hreturn line hline)
  unfold lineChars
  simp only [hsplit, List.dropLast_concat, List.getLast?_concat]
  exact hkept

end Pieces

section Blanks

theorem prefix_trimEnd (cs : List Char) : trimEnd cs <+: cs := cs.rdropWhile_prefix isBlank

theorem trimChars_sublist (cs : List Char) : (trimChars cs).Sublist cs :=
  (prefix_trimEnd _).sublist.trans (List.dropWhile_suffix _).sublist

/-- What is taken off the end does not bring a blank to the front. -/
theorem trimStart_trimChars (cs : List Char) : trimStart (trimChars cs) = trimChars cs := by
  refine List.dropWhile_eq_self_iff.2 fun hlength => ?_
  have hfront : trimChars cs <+: trimStart cs := prefix_trimEnd _
  rw [hfront.getElem hlength]
  exact List.dropWhile_get_zero_not isBlank cs (hlength.trans_le hfront.length_le)

theorem trimChars_trimChars (cs : List Char) : trimChars (trimChars cs) = trimChars cs := by
  have hend : trimEnd (trimChars cs) = trimChars cs := List.rdropWhile_idempotent ..
  rw [trimChars, trimStart_trimChars, hend]

theorem trim_trim (s : String) : trim (trim s) = trim s := by
  unfold trim
  rw [String.toList_ofList, trimChars_trimChars]

end Blanks

end ShardOperator.Text

namespace ShardOperator

/-- No dash of the text can be mistaken for one that joins it to another. -/
def Dashless (text : String) : Prop := '-' ∉ text.toList

theorem dashless_toString (n : Nat) : Dashless (toString n) := by
  intro hmem
  rw [Nat.toString_eq_repr, Nat.toList_repr] at hmem
  have hdigit := Nat.isDigit_of_mem_toDigits (by omega) (by omega) hmem
  cases hdigit

theorem not_dashless_joined (a b : String) : ¬Dashless (a ++ "-" ++ b) := by
  simp [Dashless]

/-- One name goes on behind a dash where the other ends, and what follows them makes up for it: two
joined texts are the same though the names are not. -/
def Overlap (name rest other otherRest : String) : Prop :=
  ∃ gap, other = name ++ "-" ++ gap ∧ rest = gap ++ "-" ++ otherRest

theorem overlap_of_append {c d t u : String} {dash : Char} {gap : List Char}
    (hd : d.toList = c.toList ++ dash :: gap)
    (ht : '-' :: t.toList = (dash :: gap) ++ '-' :: u.toList) : Overlap c t d u := by
  rw [List.cons_append] at ht
  injection ht with hdash htail
  subst hdash
  refine ⟨String.ofList gap, ?_, ?_⟩
  · apply String.toList_inj.1
    simp [hd]
  · apply String.toList_inj.1
    simp [htail]

/-- Either name goes on where the other ends. -/
def Clash (name rest other otherRest : String) : Prop :=
  Overlap name rest other otherRest ∨ Overlap other otherRest name rest

/-- The dash that joins two texts is told from the dashes inside of them unless they clash. -/
theorem joined_eq_iff {c d t u : String} :
    c ++ "-" ++ t = d ++ "-" ++ u ↔ (c = d ∧ t = u) ∨ Clash c t d u := by
  constructor
  · intro h
    have hlist : c.toList ++ '-' :: t.toList = d.toList ++ '-' :: u.toList := by
      have h := congrArg String.toList h
      simpa using h
    rcases List.append_eq_append_iff.1 hlist with ⟨gap, hd, ht⟩ | ⟨gap, hc, hu⟩
    · cases gap with
      | nil =>
        rw [List.append_nil] at hd
        rw [List.nil_append] at ht
        exact .inl ⟨(String.toList_inj.1 hd).symm, String.toList_inj.1 (List.cons.inj ht).2⟩
      | cons dash gap => exact .inr (.inl (overlap_of_append hd ht))
    · cases gap with
      | nil =>
        rw [List.append_nil] at hc
        rw [List.nil_append] at hu
        exact .inl ⟨String.toList_inj.1 hc, (String.toList_inj.1 (List.cons.inj hu).2).symm⟩
      | cons dash gap => exact .inr (.inr (overlap_of_append hc hu))
  · rintro (⟨rfl, rfl⟩ | ⟨gap, rfl, rfl⟩ | ⟨gap, rfl, rfl⟩)
    · rfl
    · simp only [String.append_assoc]
    · simp only [String.append_assoc]

theorem ne_append_dash (name gap : String) : name ≠ name ++ "-" ++ gap := by
  intro h
  have hlength := congrArg String.length h
  have hdash : "-".length = 1 := rfl
  simp only [String.length_append, hdash] at hlength
  omega

theorem not_clash_self (name rest otherRest : String) : ¬Clash name rest name otherRest := by
  rintro (⟨gap, hname, -⟩ | ⟨gap, hname, -⟩)
  · exact ne_append_dash name gap hname
  · exact ne_append_dash name gap hname

theorem not_overlap_of_dashless {name rest other otherRest : String} (h : Dashless rest) :
    ¬Overlap name rest other otherRest := by
  rintro ⟨gap, -, rfl⟩
  exact not_dashless_joined gap otherRest h

theorem joined_inj_left {s t r q : String} (hs : Dashless s) (ht : Dashless t) :
    s ++ "-" ++ r = t ++ "-" ++ q ↔ s = t ∧ r = q := by
  constructor
  · intro h
    rcases joined_eq_iff.1 h with h | ⟨gap, rfl, -⟩ | ⟨gap, rfl, -⟩
    · exact h
    · exact absurd ht (not_dashless_joined s gap)
    · exact absurd hs (not_dashless_joined t gap)
  · rintro ⟨rfl, rfl⟩
    rfl

theorem joined_inj_right {s t r q : String} (hr : Dashless r) (hq : Dashless q) :
    s ++ "-" ++ r = t ++ "-" ++ q ↔ s = t ∧ r = q := by
  constructor
  · intro h
    rcases joined_eq_iff.1 h with h | ⟨gap, -, rfl⟩ | ⟨gap, -, rfl⟩
    · exact h
    · exact absurd hr (not_dashless_joined gap q)
    · exact absurd hq (not_dashless_joined gap r)
  · rintro ⟨rfl, rfl⟩
    rfl

/-- Two texts without dashes leave no room for a third between them. -/
theorem not_overlap_joined {shard replica : String} (hshard : Dashless shard)
    (hreplica : Dashless replica) (name other s r : String) :
    ¬Overlap name (shard ++ "-" ++ replica) other (s ++ "-" ++ r) := by
  rintro ⟨gap, -, h⟩
  rcases joined_eq_iff.1 h with ⟨-, rfl⟩ | ⟨more, -, rfl⟩ | ⟨more, rfl, -⟩
  · exact not_dashless_joined s r hreplica
  · exact not_dashless_joined more (s ++ "-" ++ r) hreplica
  · exact not_dashless_joined gap more hshard

end ShardOperator
