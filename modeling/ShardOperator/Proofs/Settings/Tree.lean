import ShardOperator.Files.SettingTree
import ShardOperator.Proofs.Data.Lookup

namespace ShardOperator.SettingTree

section Children

variable {name other : String} {f : SettingTree → SettingTree} {t : SettingTree}
  {children : List (String × SettingTree)}

def child? (name : String) (children : List (String × SettingTree)) : Option SettingTree :=
  (children.find? (·.1 == name)).map (·.2)

theorem child?_eq_some_iff (h : children.Pairwise fun a b => a.1 < b.1) :
    child? name children = some t ↔ (name, t) ∈ children :=
  ⟨@SortedMap.mem_of_find? _ ⟨children, h⟩ name t,
    @SortedMap.find?_of_mem _ ⟨children, h⟩ (name, t)⟩

/-- Children in order are a map, and a change of one of them is an insertion. -/
theorem updateChild_eq (h : children.Pairwise fun a b => a.1 < b.1) :
    updateChild name f children =
      SortedMap.insertEntry name (f ((child? name children).getD empty)) children := by
  induction children with
  | nil => rfl
  | cons child rest ih =>
    obtain ⟨hfirst, hrest⟩ := List.pairwise_cons.1 h
    unfold updateChild SortedMap.insertEntry
    split
    · next hlt =>
      have hnone : child? name (child :: rest) = none := by
        rw [child?, Option.map_eq_none_iff, List.find?_eq_none]
        rintro entry hentry he
        rcases List.mem_cons.1 hentry with rfl | hentry
        · exact String.lt_irrefl _ (beq_iff_eq.1 he ▸ hlt)
        · exact String.lt_asymm hlt (beq_iff_eq.1 he ▸ hfirst entry hentry)
      rw [hnone]
      rfl
    · next hge =>
      split
      · next hgt =>
        have hne : child.1 ≠ name := fun he => String.lt_irrefl name (by rwa [he] at hgt)
        rw [ih hrest, child?, child?, List.find?_cons_of_neg (by simpa using hne)]
      · next hle =>
        have heq : child.1 = name := SortedMap.eq_of_not_lt hle hge
        rw [child?, List.find?_cons_of_pos (by simpa using heq)]
        rfl

theorem updateChild_ne_nil (name : String) (f : SettingTree → SettingTree)
    (children : List (String × SettingTree)) : updateChild name f children ≠ [] := by
  cases children with
  | nil => nofun
  | cons child rest =>
    unfold updateChild
    split
    · nofun
    · split <;> nofun

theorem child?_updateChild (h : children.Pairwise fun a b => a.1 < b.1) :
    child? other (updateChild name f children) =
      if name = other then some (f ((child? name children).getD empty))
      else child? other children := by
  rw [updateChild_eq h]
  exact SortedMap.find?_insert ⟨children, h⟩ name other _

end Children

/-- The tree that a path leads to. -/
def sub? : List String → SettingTree → Option SettingTree
  | [], t => some t
  | name :: rest, t => (child? name t.children).bind (sub? rest)

/-- The setting at the end of a path. -/
def get? (path : List String) (t : SettingTree) : Option Setting := (t.sub? path).bind value?

def Alive (t : SettingTree) : Prop := t.value? ≠ none ∨ t.children ≠ []

/-- What insertions make of the empty tree: children in the order of their names, none of which is
without a setting in it or below. -/
inductive Grown : SettingTree → Prop
  | node {value : Option Setting} {children : List (String × SettingTree)}
    (valued : ∀ setting ∈ value, setting.values ≠ [])
    (ascending : children.Pairwise fun a b => a.1 < b.1)
    (alive : ∀ child ∈ children, child.2.Alive)
    (grown : ∀ child ∈ children, Grown child.2) : Grown (.node value children)

section Insertion

variable {t : SettingTree} {setting : Setting} {path other : List String}

theorem sub?_append (path more : List String) (t : SettingTree) :
    t.sub? (path ++ more) = (t.sub? path).bind (sub? more) := by
  induction path generalizing t with
  | nil => rfl
  | cons name rest ih =>
    rw [List.cons_append, sub?, sub?, Option.bind_assoc]
    exact congrArg _ (funext ih)

theorem sub?_cons_eq_none (h : t.children = []) (name : String) (rest : List String) :
    t.sub? (name :: rest) = none := by
  rw [sub?, h]
  rfl

theorem get?_empty (path : List String) : empty.get? path = none := by
  cases path <;> rfl

theorem get?_cons (name : String) (rest : List String) (t : SettingTree) :
    t.get? (name :: rest) = ((child? name t.children).getD empty).get? rest := by
  rw [get?, sub?]
  cases child? name t.children with
  | none => exact (get?_empty rest).symm
  | some child => rfl

theorem grown_empty : Grown empty := .node nofun .nil nofun nofun

theorem Grown.getD_child? {value : Option Setting} {children : List (String × SettingTree)}
    (h : Grown (.node value children)) (name : String) :
    Grown ((child? name children).getD empty) := by
  cases h with
  | node _ ascending _ grown =>
    cases hchild : child? name children with
    | none => exact grown_empty
    | some child => exact grown (name, child) ((child?_eq_some_iff ascending).1 hchild)

theorem alive_insert (setting : Setting) (path : List String) (t : SettingTree) :
    (t.insert setting path).Alive := by
  obtain ⟨value, children⟩ := t
  cases path with
  | nil => exact .inl nofun
  | cons name rest =>
    exact .inr (updateChild_ne_nil name (SettingTree.insert setting rest) children)

theorem Grown.insert (h : Grown t) (hsetting : setting.values ≠ []) (path : List String) :
    Grown (t.insert setting path) := by
  induction path generalizing t with
  | nil =>
    cases h with
    | node _ ascending alive grown =>
      exact .node (fun _ h => Option.mem_some.1 h ▸ hsetting) ascending alive grown
  | cons name rest ih =>
    obtain ⟨value, children⟩ := t
    have hchild := ih (h.getD_child? name)
    cases h with
    | node valued ascending alive grown =>
      rw [SettingTree.insert, updateChild_eq ascending]
      exact .node valued (SortedMap.ascending_insertEntry _ _ ascending)
        (SortedMap.forall_mem_insertEntry (alive_insert ..) alive)
        (SortedMap.forall_mem_insertEntry hchild grown)

/-- An insertion changes what is at the end of its path, and nothing else. -/
theorem get?_insert (h : Grown t) :
    (t.insert setting path).get? other = if path = other then some setting else t.get? other := by
  induction path generalizing t other with
  | nil =>
    obtain ⟨value, children⟩ := t
    cases other <;> rfl
  | cons name rest ih =>
    obtain ⟨value, children⟩ := t
    have hchild := h.getD_child? name
    cases h with
    | node _ ascending _ _ =>
      cases other with
      | nil => rfl
      | cons next more =>
        rw [SettingTree.insert, get?_cons, get?_cons, SettingTree.children, SettingTree.children,
          child?_updateChild ascending]
        by_cases hname : name = next
        · subst hname
          simp only [if_pos, Option.getD_some, ih hchild, List.cons.injEq, true_and]
        · rw [if_neg hname, if_neg fun he => hname (List.cons.inj he).1]

end Insertion

section Ends

mutual

/-- The settings that nothing is below, with the paths to them. -/
def ends : SettingTree → List (List String × Setting)
  | .node (some setting) [] => [([], setting)]
  | .node _ children => endsOf children

def endsOf : List (String × SettingTree) → List (List String × Setting)
  | [] => []
  | (name, child) :: rest => child.ends.map (fun e => (name :: e.1, e.2)) ++ endsOf rest

end

variable {t : SettingTree} {setting : Setting} {path : List String}

theorem endsOf_eq (children : List (String × SettingTree)) :
    endsOf children =
      children.flatMap fun child => child.2.ends.map fun e => (child.1 :: e.1, e.2) := by
  induction children with
  | nil => rfl
  | cons child rest ih => rw [endsOf, ih, List.flatMap_cons]

/-- A setting that something is below is not listed. -/
theorem ends_node (value : Option Setting) {children : List (String × SettingTree)}
    (h : children ≠ []) : (node value children).ends = endsOf children := by
  cases children with
  | nil => exact absurd rfl h
  | cons child rest => cases value <;> rfl

theorem Grown.ends_ne_nil (h : Grown t) (halive : t.Alive) : t.ends ≠ [] := by
  -- From child to child, down to a tree without children, which is alive by a setting of its own.
  induction h with
  | @node value children _ _ alive _ ih =>
    cases children with
    | nil =>
      cases value with
      | none => exact absurd rfl (halive.resolve_left fun h => h rfl)
      | some setting => nofun
    | cons child rest =>
      have hchild : child ∈ child :: rest := List.mem_cons_self ..
      rw [ends_node value (List.cons_ne_nil _ _), endsOf]
      exact List.append_ne_nil_of_left_ne_nil
        (mt List.map_eq_nil_iff.1 (ih child hchild (alive child hchild))) _

theorem not_mem_endsOf_nil (setting : Setting) (children : List (String × SettingTree)) :
    ([], setting) ∉ endsOf children := by
  rw [endsOf_eq]
  intro hmem
  obtain ⟨child, -, hmem⟩ := List.mem_flatMap.1 hmem
  obtain ⟨e, -, he⟩ := List.mem_map.1 hmem
  exact List.cons_ne_nil _ _ (congrArg Prod.fst he)

theorem mem_endsOf_cons {name : String} {children : List (String × SettingTree)} :
    (name :: path, setting) ∈ endsOf children ↔
      ∃ child, (name, child) ∈ children ∧ (path, setting) ∈ child.ends := by
  rw [endsOf_eq]
  constructor
  · intro hmem
    obtain ⟨⟨name, child⟩, hchild, hmem⟩ := List.mem_flatMap.1 hmem
    obtain ⟨⟨path, setting⟩, he, heq⟩ := List.mem_map.1 hmem
    obtain ⟨hpath, rfl⟩ := Prod.mk.inj heq
    obtain ⟨rfl, rfl⟩ := List.cons.inj hpath
    exact ⟨child, hchild, he⟩
  · rintro ⟨child, hchild, he⟩
    exact List.mem_flatMap.2 ⟨_, hchild, List.mem_map.2 ⟨_, he, rfl⟩⟩

theorem mem_ends_leaf {value : Option Setting} :
    (path, setting) ∈ (node value []).ends ↔ path = [] ∧ value = some setting := by
  cases value with
  | none => simp [ends, endsOf]
  | some found =>
    rw [ends, List.mem_singleton, Prod.mk.injEq, Option.some.injEq]
    exact and_congr_right fun _ => eq_comm

theorem Grown.mem_ends_iff (h : Grown t) : (path, setting) ∈ t.ends ↔
    ∃ sub, t.sub? path = some sub ∧ sub.value? = some setting ∧ sub.children = [] := by
  induction h generalizing path with
  | @node value children _ ascending _ _ ih =>
    by_cases hchildren : children = []
    · subst hchildren
      rw [mem_ends_leaf]
      cases path <;> simp [sub?, child?, value?, SettingTree.children]
    · rw [ends_node value hchildren]
      cases path with
      | nil =>
        refine iff_of_false (not_mem_endsOf_nil setting children) ?_
        rintro ⟨sub, hsub, -, hnone⟩
        obtain rfl := Option.some.inj hsub
        exact hchildren hnone
      | cons name rest =>
        rw [mem_endsOf_cons]
        simp only [sub?, Option.bind_eq_some_iff, SettingTree.children,
          child?_eq_some_iff ascending]
        constructor
        · rintro ⟨child, hchild, hmem⟩
          obtain ⟨sub, hsub, hends⟩ := (ih _ hchild).1 hmem
          exact ⟨sub, ⟨child, hchild, hsub⟩, hends⟩
        · rintro ⟨sub, ⟨child, hchild, hsub⟩, hends⟩
          exact ⟨child, hchild, (ih _ hchild).2 ⟨sub, hsub, hends⟩⟩

/-- The paths are listed in ascending order, segment by segment. -/
theorem Grown.ascending_ends (h : Grown t) : t.ends.Pairwise fun a b => a.1 < b.1 := by
  induction h with
  | @node value children _ ascending _ _ ih =>
    by_cases hchildren : children = []
    · subst hchildren
      cases value with
      | none => exact .nil
      | some setting => exact List.pairwise_singleton ..
    · rw [ends_node value hchildren, endsOf_eq]
      refine List.pairwise_flatMap.2 ⟨fun child hchild => ?_, ascending.imp fun {a b} hlt => ?_⟩
      · exact (ih child hchild).map _ fun a b hab => List.cons_lt_cons_iff.2 (.inr ⟨rfl, hab⟩)
      · intro e he f hf
        obtain ⟨e, -, rfl⟩ := List.mem_map.1 he
        obtain ⟨f, -, rfl⟩ := List.mem_map.1 hf
        exact List.cons_lt_cons_iff.2 (.inl hlt)

/-- Where a tree goes on, it goes on to a setting. -/
theorem Grown.children_ne_nil_iff (h : Grown t) :
    t.children ≠ [] ↔ ∃ name rest, t.get? (name :: rest) ≠ none := by
  constructor
  · intro hchildren
    cases h with
    | @node value children _ ascending alive grown =>
      obtain ⟨child, hchild⟩ := List.exists_mem_of_ne_nil children hchildren
      obtain ⟨⟨path, setting⟩, he⟩ := List.exists_mem_of_ne_nil _
        ((grown child hchild).ends_ne_nil (alive child hchild))
      obtain ⟨sub, hsub, hsetting, -⟩ := (grown child hchild).mem_ends_iff.1 he
      refine ⟨child.1, path, ?_⟩
      have hfound : child? child.1 children = some child.2 :=
        (child?_eq_some_iff ascending).2 hchild
      rw [get?_cons, SettingTree.children, hfound, Option.getD_some, get?, hsub,
        Option.bind_some, hsetting]
      nofun
  · rintro ⟨name, rest, hget⟩ hnone
    refine hget ?_
    rw [get?_cons, hnone]
    exact get?_empty rest

end Ends

end ShardOperator.SettingTree
