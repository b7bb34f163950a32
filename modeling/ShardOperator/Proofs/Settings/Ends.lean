import Mathlib.Data.List.Lex
import Mathlib.Data.List.Sort
import Mathlib.Data.String.Basic
import ShardOperator.Proofs.Settings.Tree
import ShardOperator.Proofs.Text.Pieces

namespace ShardOperator

namespace Settings

/-- Settings that can be written down as elements: each of them has a value. -/
def Writable (s : Settings) : Prop := ∀ entry ∈ s.entries.entries, entry.2.values ≠ []

instance (s : Settings) : Decidable s.Writable :=
  inferInstanceAs (Decidable (∀ entry ∈ s.entries.entries, entry.2.values ≠ []))

/-- The path of some entry goes on where this one ends. -/
def Shadowed (s : Settings) (path : List String) : Prop :=
  ∃ entry ∈ s.entries.entries, path <+: Text.split '/' entry.1 ∧ path ≠ Text.split '/' entry.1

instance (s : Settings) (path : List String) : Decidable (s.Shadowed path) :=
  inferInstanceAs (Decidable (∃ entry ∈ s.entries.entries, _))

/-- The entries that no other shadows by the segments of their paths, in the order of these. -/
def ends (s : Settings) : List (List String × Setting) :=
  ((s.entries.entries.map fun entry => (Text.split '/' entry.1, entry.2)).filter
    fun e => ¬s.Shadowed e.1).insertionSort fun a b => a.1 ≤ b.1

section Ends

variable {s : Settings} {path : List String} {setting : Setting}

theorem mem_ends : (path, setting) ∈ s.ends ↔
    (∃ entry ∈ s.entries.entries, Text.split '/' entry.1 = path ∧ entry.2 = setting) ∧
      ¬s.Shadowed path := by
  simp [ends]

theorem ascending_ends (s : Settings) : s.ends.Pairwise fun a b => a.1 < b.1 := by
  have : Std.Total fun a b : List String × Setting => a.1 ≤ b.1 := ⟨fun a b => le_total a.1 b.1⟩
  have : IsTrans (List String × Setting) fun a b => a.1 ≤ b.1 := ⟨fun _ _ _ => le_trans⟩
  have hsorted : s.ends.Pairwise fun a b => a.1 ≤ b.1 := List.pairwise_insertionSort ..
  have hdistinct : s.ends.Pairwise fun a b => a.1 ≠ b.1 := by
    refine ((List.perm_insertionSort _ _).pairwise_iff Ne.symm).2 (List.Pairwise.filter _ ?_)
    exact s.entries.ascending.map _ fun a b hlt he => hlt.ne (Text.split_inj.1 he)
  exact hsorted.imp₂ (fun a b hle hne => lt_of_le_of_ne hle hne) hdistinct

end Ends

end Settings

namespace SettingTree

section Entries

variable {s : Settings} {t : SettingTree} {setting : Setting} {path : List String}
  {entries : List (String × Setting)}

theorem grown_foldl (ht : Grown t) (hvalues : ∀ entry ∈ entries, entry.2.values ≠ []) :
    Grown (entries.foldl (fun t entry => t.insert entry.2 (Text.split '/' entry.1)) t) := by
  induction entries generalizing t with
  | nil => exact ht
  | cons entry rest ih =>
    obtain ⟨hvalue, hvalues⟩ := List.forall_mem_cons.1 hvalues
    exact ih (ht.insert hvalue _) hvalues

/-- No two entries have one path, so none of them hides another. -/
theorem get?_foldl (ht : Grown t)
    (hvalues : ∀ entry ∈ entries, entry.2.values ≠ [])
    (ascending : entries.Pairwise fun a b => a.1 < b.1) :
    (entries.foldl (fun t entry => t.insert entry.2 (Text.split '/' entry.1)) t).get? path =
        some setting ↔
      (∃ entry ∈ entries, Text.split '/' entry.1 = path ∧ entry.2 = setting) ∨
        (t.get? path = some setting ∧ ∀ entry ∈ entries, Text.split '/' entry.1 ≠ path) := by
  induction entries generalizing t with
  | nil => simp
  | cons entry rest ih =>
    obtain ⟨hvalue, hvalues⟩ := List.forall_mem_cons.1 hvalues
    obtain ⟨hfirst, ascending⟩ := List.pairwise_cons.1 ascending
    rw [List.foldl_cons, ih (ht.insert hvalue _) hvalues ascending, get?_insert ht]
    by_cases hpath : Text.split '/' entry.1 = path
    · have hothers : ∀ other ∈ rest, Text.split '/' other.1 ≠ path := fun other hother he =>
        String.lt_irrefl other.1 (Text.split_inj.1 (hpath.trans he.symm) ▸ hfirst other hother)
      have hnone : ¬∃ other ∈ rest, Text.split '/' other.1 = path ∧ other.2 = setting :=
        fun ⟨other, hother, he, _⟩ => hothers other hother he
      rw [if_pos hpath, Option.some.injEq, or_iff_right hnone, and_iff_left hothers]
      simp [hpath, hnone]
    · simp [hpath]

theorem grown_ofSettings (h : s.Writable) : Grown (ofSettings s) :=
  grown_foldl grown_empty h

theorem get?_ofSettings (h : s.Writable) : (ofSettings s).get? path = some setting ↔
    ∃ entry ∈ s.entries.entries, Text.split '/' entry.1 = path ∧ entry.2 = setting := by
  refine (get?_foldl grown_empty h s.entries.ascending).trans (or_iff_left ?_)
  rw [get?_empty]
  nofun

theorem Grown.of_sub? (h : Grown t) {sub : SettingTree} (hsub : t.sub? path = some sub) :
    Grown sub := by
  induction path generalizing t with
  | nil => exact Option.some.inj hsub ▸ h
  | cons name rest ih =>
    obtain ⟨child, hchild, hbelow⟩ := Option.bind_eq_some_iff.1 hsub
    cases h with
    | node _ ascending _ grown =>
      exact ih (grown _ ((child?_eq_some_iff ascending).1 hchild)) hbelow

/-- A path is shadowed where the tree goes on. -/
theorem shadowed_iff (h : s.Writable) : s.Shadowed path ↔
    ∃ sub, (ofSettings s).sub? path = some sub ∧ sub.children ≠ [] := by
  constructor
  · rintro ⟨entry, hentry, ⟨more, hmore⟩, hne⟩
    have hget := (get?_ofSettings h).2 ⟨entry, hentry, hmore.symm, rfl⟩
    rw [get?, sub?_append] at hget
    obtain ⟨below, hbelow, -⟩ := Option.bind_eq_some_iff.1 hget
    obtain ⟨sub, hsub, hbelow⟩ := Option.bind_eq_some_iff.1 hbelow
    refine ⟨sub, hsub, fun hnone => ?_⟩
    cases more with
    | nil => exact hne (List.append_nil path ▸ hmore)
    | cons name rest =>
      exact Option.some_ne_none below (hbelow.symm.trans (sub?_cons_eq_none hnone name rest))
  · rintro ⟨sub, hsub, hchildren⟩
    obtain ⟨name, rest, hget⟩ := ((grown_ofSettings h).of_sub? hsub).children_ne_nil_iff.1 hchildren
    obtain ⟨setting, hget⟩ := Option.ne_none_iff_exists'.1 hget
    have hwhole : (ofSettings s).get? (path ++ name :: rest) = some setting := by
      rw [get?, sub?_append, hsub]
      exact hget
    obtain ⟨entry, hentry, hpath, -⟩ := (get?_ofSettings h).1 hwhole
    refine ⟨entry, hentry, ⟨name :: rest, hpath.symm⟩, fun he => ?_⟩
    exact List.cons_ne_nil _ _ (List.self_eq_append_right.1 (he.trans hpath))

theorem mem_ends_ofSettings (h : s.Writable) : (path, setting) ∈ (ofSettings s).ends ↔
    (∃ entry ∈ s.entries.entries, Text.split '/' entry.1 = path ∧ entry.2 = setting) ∧
      ¬s.Shadowed path := by
  rw [(grown_ofSettings h).mem_ends_iff, ← get?_ofSettings h, shadowed_iff h, get?]
  constructor
  · rintro ⟨sub, hsub, hvalue, hnone⟩
    refine ⟨by rw [hsub, Option.bind_some, hvalue], ?_⟩
    rintro ⟨other, hother, hchildren⟩
    exact hchildren (Option.some.inj (hsub.symm.trans hother) ▸ hnone)
  · rintro ⟨hget, hend⟩
    obtain ⟨sub, hsub, hvalue⟩ := Option.bind_eq_some_iff.1 hget
    exact ⟨sub, hsub, hvalue, not_not.1 fun hchildren => hend ⟨sub, hsub, hchildren⟩⟩

/-- Every path has a segment, so there is no setting at the root. -/
theorem endsOf_children (h : s.Writable) :
    endsOf (ofSettings s).children = (ofSettings s).ends := by
  cases htree : ofSettings s with
  | node value children =>
    cases children with
    | cons child rest => exact (ends_node value (List.cons_ne_nil _ _)).symm
    | nil =>
      cases value with
      | none => rfl
      | some setting =>
        have hroot : (ofSettings s).get? [] = some setting := congrArg value? htree
        obtain ⟨entry, -, hpath, -⟩ := (get?_ofSettings h).1 hroot
        exact absurd (List.map_eq_nil_iff.1 hpath) (Text.splitChars_ne_nil '/' entry.1.toList)

/-- The tree has the entries in the order of their segments. -/
theorem ends_ofSettings (h : s.Writable) : (ofSettings s).ends = s.ends := by
  have hmem (e : List String × Setting) : e ∈ (ofSettings s).ends ↔ e ∈ s.ends :=
    (mem_ends_ofSettings h).trans Settings.mem_ends.symm
  have hne {a b : List String × Setting} (hlt : a.1 < b.1) : a ≠ b := fun he =>
    hlt.ne (congrArg Prod.fst he)
  have hperm : (ofSettings s).ends.Perm s.ends :=
    (List.perm_ext_iff_of_nodup ((grown_ofSettings h).ascending_ends.imp hne)
      (s.ascending_ends.imp hne)).2 hmem
  exact hperm.eq_of_pairwise (fun a b _ _ hab hba => absurd hba (lt_asymm hab))
    (grown_ofSettings h).ascending_ends s.ascending_ends

end Entries

end SettingTree

end ShardOperator
