import ShardOperator.Proofs.Files.Reading
import ShardOperator.Proofs.Settings.Ends

namespace ShardOperator

namespace Xml.Node

mutual

/-- The values in an element and below, each with the names of the elements around it. -/
def leaves : Node → List (List String × String)
  | .leaf tag value => [([tag], value)]
  | .branch tag children _ => (leavesOf children).map fun leaf => (tag :: leaf.1, leaf.2)

def leavesOf : List Node → List (List String × String)
  | [] => []
  | node :: rest => node.leaves ++ leavesOf rest

end

/-- The elements that a path of names leads to. -/
def atPath : List String → List Node → List Node
  | [], _ => []
  | [name], nodes => nodes.filter (·.tag = name)
  | name :: rest, nodes => atPath rest ((nodes.filter (·.tag = name)).flatMap children)

theorem leavesOf_eq (nodes : List Node) : leavesOf nodes = nodes.flatMap leaves := by
  induction nodes with
  | nil => rfl
  | cons node rest ih => rw [leavesOf, ih, List.flatMap_cons]

theorem leavesOf_append (nodes more : List Node) :
    leavesOf (nodes ++ more) = leavesOf nodes ++ leavesOf more := by
  rw [leavesOf_eq, leavesOf_eq, leavesOf_eq, List.flatMap_append]

section Reading

theorem tag_asRead (node : Node) : node.asRead.tag = node.tag := by
  cases node <;> rfl

theorem children_asRead (node : Node) : node.asRead.children = node.children.map asRead := by
  cases node with
  | leaf => rfl
  | branch _ children => exact asReadAll_eq children

mutual

theorem leaves_asRead (node : Node) :
    node.asRead.leaves = node.leaves.map (Prod.map id Xml.asRead) := by
  match node with
  | .leaf tag value => rfl
  | .branch tag children _ =>
    rw [asRead, leaves, leaves, leavesOf_asReadAll, List.map_map, List.map_map]
    rfl

theorem leavesOf_asReadAll (nodes : List Node) :
    leavesOf (asReadAll nodes) = (leavesOf nodes).map (Prod.map id Xml.asRead) := by
  match nodes with
  | [] => rfl
  | node :: rest =>
    rw [asReadAll, leavesOf, leavesOf, leaves_asRead, leavesOf_asReadAll, List.map_append]

end

/-- Texts are read as they are, but elements keep their places. -/
theorem atPath_asRead (path : List String) (nodes : List Node) :
    atPath path (nodes.map asRead) = (atPath path nodes).map asRead := by
  have hfilter (name : String) (nodes : List Node) :
      (nodes.map asRead).filter (·.tag = name) = (nodes.filter (·.tag = name)).map asRead := by
    rw [List.filter_map]
    exact congrArg _ (List.filter_congr fun node _ => by rw [Function.comp_apply, tag_asRead])
  induction path generalizing nodes with
  | nil => rfl
  | cons name rest ih =>
    cases rest with
    | nil => exact hfilter name nodes
    | cons next more =>
      have hbelow (nodes : List Node) : atPath (name :: next :: more) nodes =
          atPath (next :: more) ((nodes.filter (·.tag = name)).flatMap children) := rfl
      rw [hbelow, hbelow, hfilter, List.flatMap_map, ← ih, List.map_flatMap]
      exact congrArg _ (List.flatMap_congr fun node _ => children_asRead node)

theorem Readable.legible {node : Node} {leaf : List String × String} (h : node.Readable)
    (hleaf : leaf ∈ node.leaves) : (∀ name ∈ leaf.1, IsName name) ∧ Legal leaf.2.toList := by
  induction h generalizing leaf with
  | leaf name legal =>
    obtain rfl := List.mem_singleton.1 hleaf
    exact ⟨List.forall_mem_singleton.2 name, legal⟩
  | branch name _ _ ih =>
    obtain ⟨inner, hinner, rfl⟩ := List.mem_map.1 hleaf
    rw [leavesOf_eq] at hinner
    obtain ⟨child, hchild, hinner⟩ := List.mem_flatMap.1 hinner
    obtain ⟨hnames, hlegal⟩ := ih child hchild hinner
    exact ⟨List.forall_mem_cons.2 ⟨name, hnames⟩, hlegal⟩

mutual

/-- Every value is written for an element of its own. -/
theorem mem_pieces_of_mem_leaves {leaf : List String × String} (node : Node)
    (h : leaf ∈ node.leaves) : ∃ tag, .element tag leaf.2 ∈ node.pieces := by
  match node with
  | .leaf tag value =>
    obtain rfl := List.mem_singleton.1 h
    exact ⟨tag, List.mem_singleton_self _⟩
  | .branch tag children attr =>
    obtain ⟨inner, hinner, rfl⟩ := List.mem_map.1 h
    obtain ⟨tag, hmem⟩ := mem_pieces_of_mem_leavesOf children hinner
    exact ⟨tag, List.mem_append_left _ (List.mem_append_right _ hmem)⟩

theorem mem_pieces_of_mem_leavesOf {leaf : List String × String} (nodes : List Node)
    (h : leaf ∈ leavesOf nodes) : ∃ tag, .element tag leaf.2 ∈ piecesOf nodes := by
  match nodes with
  | [] => nomatch h
  | node :: rest =>
    rcases List.mem_append.1 h with h | h
    · obtain ⟨tag, hmem⟩ := mem_pieces_of_mem_leaves node h
      exact ⟨tag, List.mem_append_left _ hmem⟩
    · obtain ⟨tag, hmem⟩ := mem_pieces_of_mem_leavesOf rest h
      exact ⟨tag, List.mem_append_right _ hmem⟩

end

end Reading

end Xml.Node

namespace SettingTree

open Xml

mutual

/-- The elements that a tree is written as. -/
def nodes (tag : String) : SettingTree → List Node
  | .node (some setting) [] => setting.values.map (.leaf tag)
  | .node _ children => [.branch tag (nodesOf children)]

def nodesOf : List (String × SettingTree) → List Node
  | [] => []
  | (tag, child) :: rest => child.nodes tag ++ nodesOf rest

end

section Writing

variable {tag : String} {children : List (String × SettingTree)}

theorem nodesOf_eq (children : List (String × SettingTree)) :
    nodesOf children = children.flatMap fun child => child.2.nodes child.1 := by
  induction children with
  | nil => rfl
  | cons child rest ih => rw [nodesOf, ih, List.flatMap_cons]

theorem nodes_node (value : Option Setting) (h : children ≠ []) :
    (node value children).nodes tag = [.branch tag (nodesOf children)] := by
  cases children with
  | nil => exact absurd rfl h
  | cons child rest => cases value <;> rfl

mutual

theorem tree_eq (w : XmlWriter) (tag : String) (t : SettingTree) :
    w.tree tag t = w.putAll ((t.nodes tag).flatMap Node.pieces) := by
  have hbranch (children : List (String × SettingTree)) :
      [Node.branch tag (nodesOf children)].flatMap Node.pieces =
        [.opening tag] ++ (nodesOf children).flatMap Node.pieces ++ [.closing tag] := by
    rw [List.flatMap_singleton, Node.pieces_branch]
    rfl
  match t with
  | .node (some setting) [] =>
    have hvalue (w : XmlWriter) (value : String) :
        w.element tag value = w.putAll (Node.leaf tag value).pieces := rfl
    rw [XmlWriter.tree, nodes, List.flatMap_map]
    exact XmlWriter.foldl_putAll hvalue w setting.values
  | .node none [] => rfl
  | .node value (child :: rest) =>
    rw [nodes_node value (List.cons_ne_nil _ _), hbranch, XmlWriter.putAll_append,
      XmlWriter.putAll_append]
    have htrees := trees_eq (w.openTag tag) (child :: rest)
    cases value with
    | none => exact congrArg (XmlWriter.closeTag · tag) htrees
    | some setting => exact congrArg (XmlWriter.closeTag · tag) htrees

theorem trees_eq (w : XmlWriter) (children : List (String × SettingTree)) :
    w.trees children = w.putAll ((nodesOf children).flatMap Node.pieces) := by
  match children with
  | [] => rfl
  | (tag, child) :: rest =>
    rw [XmlWriter.trees, nodesOf, List.flatMap_append, XmlWriter.putAll_append, tree_eq w tag child,
      trees_eq _ rest]

end

theorem settings_eq (s : Settings) :
    (XmlWriter.document.settings s).finish = textOf (nodesOf (ofSettings s).children) := by
  rw [XmlWriter.settings, trees_eq]
  rfl

end Writing

section Readable

variable {t : SettingTree} {tag : String}

theorem tag_of_mem_nodes {node : Node} (h : node ∈ t.nodes tag) : node.tag = tag := by
  obtain ⟨value, children⟩ := t
  unfold nodes at h
  split at h
  · obtain ⟨value, -, rfl⟩ := List.mem_map.1 h
    rfl
  · obtain rfl := List.mem_singleton.1 h
    rfl

theorem Grown.nodes_ne_nil (h : Grown t) (tag : String) : t.nodes tag ≠ [] := by
  cases h with
  | @node value children valued _ _ _ =>
    unfold nodes
    split
    · next setting heq =>
      obtain ⟨rfl, rfl⟩ := node.inj heq
      exact mt List.map_eq_nil_iff.1 (valued setting rfl)
    · exact List.cons_ne_nil _ _

/-- The names in a path are names of elements, and the values have only characters that a document
can have. -/
def Spelled (e : List String × Setting) : Prop :=
  (∀ name ∈ e.1, IsName name) ∧ ∀ value ∈ e.2.values, Legal value.toList

instance : DecidablePred Spelled := fun e =>
  inferInstanceAs
    (Decidable ((∀ name ∈ e.1, IsName name) ∧ ∀ value ∈ e.2.values, Legal value.toList))

theorem Grown.readable (h : Grown t) (halive : t.Alive)
    (hends : ∀ e ∈ t.ends, Spelled (tag :: e.1, e.2)) : ∀ node ∈ t.nodes tag, node.Readable := by
  induction h generalizing tag with
  | @node value children valued ascending alive grown ih =>
    by_cases hchildren : children = []
    · subst hchildren
      cases value with
      | none => exact absurd rfl (halive.resolve_left fun h => h rfl)
      | some setting =>
        intro node hnode
        obtain ⟨text, htext, rfl⟩ := List.mem_map.1 hnode
        obtain ⟨hnames, hvalues⟩ := hends ([], setting) (List.mem_singleton_self _)
        exact .leaf (hnames tag (List.mem_cons_self ..)) (hvalues text htext)
    · have hname : IsName tag := by
        obtain ⟨e, he⟩ := List.exists_mem_of_ne_nil _
          (Grown.ends_ne_nil (.node valued ascending alive grown) halive)
        exact (hends e he).1 tag (List.mem_cons_self ..)
      rw [ends_node value hchildren] at hends
      rw [nodes_node value hchildren]
      refine List.forall_mem_singleton.2 (.branch hname ?_ ?_)
      · obtain ⟨child, hchild⟩ := List.exists_mem_of_ne_nil children hchildren
        obtain ⟨node, hnode⟩ := List.exists_mem_of_ne_nil _
          ((grown child hchild).nodes_ne_nil child.1)
        rw [nodesOf_eq]
        exact List.ne_nil_of_mem (List.mem_flatMap.2 ⟨child, hchild, hnode⟩)
      · intro node hnode
        rw [nodesOf_eq] at hnode
        obtain ⟨child, hchild, hnode⟩ := List.mem_flatMap.1 hnode
        refine ih child hchild (alive child hchild) (fun e he => ?_) node hnode
        obtain ⟨hnames, hvalues⟩ := hends (child.1 :: e.1, e.2) (mem_endsOf_cons.2 ⟨_, hchild, he⟩)
        exact ⟨fun name hname => hnames name (List.mem_cons_of_mem _ hname), hvalues⟩

theorem Grown.readable_nodesOf (h : Grown t) (hends : ∀ e ∈ endsOf t.children, Spelled e) :
    ∀ node ∈ nodesOf t.children, node.Readable := by
  cases h with
  | @node value children _ _ alive grown =>
    intro node hnode
    rw [SettingTree.children, nodesOf_eq] at hnode
    obtain ⟨child, hchild, hnode⟩ := List.mem_flatMap.1 hnode
    exact (grown child hchild).readable (alive child hchild)
      (fun e he => hends _ (mem_endsOf_cons.2 ⟨_, hchild, he⟩)) node hnode

end Readable

section Leaves

/-- What is listed for a path, once for each of its values. -/
def valuesAt (e : List String × Setting) : List (List String × String) :=
  e.2.values.map fun value => (e.1, value)

theorem flatMap_valuesAt_cons (tag : String) (es : List (List String × Setting)) :
    (es.map fun e => (tag :: e.1, e.2)).flatMap valuesAt =
      (es.flatMap valuesAt).map fun leaf => (tag :: leaf.1, leaf.2) := by
  rw [List.flatMap_map, List.map_flatMap]
  refine List.flatMap_congr fun e _ => ?_
  rw [valuesAt, valuesAt, List.map_map]
  rfl

mutual

/-- The leaves of a tree's elements are its settings. -/
theorem leaves_nodes (t : SettingTree) (tag : String) :
    Node.leavesOf (t.nodes tag) =
      (t.ends.map fun e => (tag :: e.1, e.2)).flatMap valuesAt := by
  match t with
  | .node (some setting) [] =>
    rw [nodes, ends, List.map_singleton, List.flatMap_singleton, Node.leavesOf_eq,
      List.flatMap_map, valuesAt, List.map_eq_flatMap]
    rfl
  | .node none [] => rfl
  | .node value (child :: rest) =>
    rw [nodes_node value (List.cons_ne_nil _ _), ends_node value (List.cons_ne_nil _ _),
      flatMap_valuesAt_cons, ← leaves_nodesOf (child :: rest)]
    exact List.append_nil _

theorem leaves_nodesOf (children : List (String × SettingTree)) :
    Node.leavesOf (nodesOf children) = (endsOf children).flatMap valuesAt := by
  match children with
  | [] => rfl
  | (tag, child) :: rest =>
    rw [nodesOf, endsOf, Node.leavesOf_append, List.flatMap_append, leaves_nodes child tag,
      leaves_nodesOf rest]

end

end Leaves

section Paths

variable {t sub child : SettingTree} {name : String} {path : List String}
  {children : List (String × SettingTree)}

/-- All elements with the name of a child are written for this child. -/
theorem filter_nodesOf (ascending : children.Pairwise fun a b => a.1 < b.1)
    (h : (name, child) ∈ children) :
    (nodesOf children).filter (·.tag = name) = child.nodes name := by
  have hothers {rest : List (String × SettingTree)} (hrest : ∀ other ∈ rest, other.1 ≠ name) :
      (nodesOf rest).filter (·.tag = name) = [] := by
    rw [List.filter_eq_nil_iff, nodesOf_eq]
    intro node hnode htag
    obtain ⟨other, hother, hnode⟩ := List.mem_flatMap.1 hnode
    exact hrest other hother ((tag_of_mem_nodes hnode).symm.trans (of_decide_eq_true htag))
  have hown : (child.nodes name).filter (·.tag = name) = child.nodes name :=
    List.filter_eq_self.2 fun node hnode => decide_eq_true (tag_of_mem_nodes hnode)
  obtain ⟨before, after, rfl⟩ := List.append_of_mem h
  obtain ⟨-, hafter, hbefore⟩ := List.pairwise_append.1 ascending
  have hfirst : ∀ other ∈ before, other.1 ≠ name := fun other hother =>
    (hbefore other hother _ (List.mem_cons_self ..)).ne
  have hlast : ∀ other ∈ after, other.1 ≠ name := fun other hother =>
    ((List.pairwise_cons.1 hafter).1 other hother).ne'
  have hsplit : nodesOf (before ++ (name, child) :: after) =
      nodesOf before ++ (child.nodes name ++ nodesOf after) := by
    simp only [nodesOf_eq, List.flatMap_append, List.flatMap_cons]
  rw [hsplit, List.filter_append, List.filter_append, hothers hfirst, hown, hothers hlast,
    List.nil_append, List.append_nil]

/-- A path that goes on leads to one element, however many settings go on below it. -/
theorem Grown.atPath_nodesOf (h : Grown t) (hpath : path ≠ []) (hsub : t.sub? path = some sub)
    (hchildren : sub.children ≠ []) : ∃ node, Node.atPath path (nodesOf t.children) = [node] := by
  induction path generalizing t with
  | nil => exact absurd rfl hpath
  | cons name rest ih =>
    obtain ⟨child, hchild, hbelow⟩ := Option.bind_eq_some_iff.1 hsub
    cases h with
    | @node value children _ ascending _ grown =>
      have hmem := (child?_eq_some_iff ascending).1 hchild
      have hfilter := filter_nodesOf ascending hmem
      cases rest with
      | nil =>
        obtain rfl := Option.some.inj hbelow
        obtain ⟨value, below⟩ := child
        exact ⟨_, hfilter.trans (nodes_node value hchildren)⟩
      | cons next more =>
        have hgoesOn : child.children ≠ [] := fun hnone =>
          Option.some_ne_none sub (hbelow.symm.trans (sub?_cons_eq_none hnone next more))
        obtain ⟨value, below⟩ := child
        have hnodes : (SettingTree.node value below).nodes name = [.branch name (nodesOf below)] :=
          nodes_node value hgoesOn
        obtain ⟨node, hnode⟩ := ih (grown _ hmem) (List.cons_ne_nil _ _) hbelow
        refine ⟨node, ?_⟩
        rw [Node.atPath, SettingTree.children, hfilter, hnodes, List.flatMap_singleton]
        · exact hnode
        · exact List.cons_ne_nil next more

end Paths

end SettingTree

namespace Settings

open Xml SettingTree

variable {s : Settings} {leaves : List (List String × String)}

/-- The document that settings are written as is well-formed. Read back, it has these values and no
other, and all entries that go on from a path share one element there. -/
def ReadsAs (s : Settings) (leaves : List (List String × String)) : Prop :=
  ∃ nodes, document? (XmlWriter.document.settings s).finish = some (rootTag, nodes) ∧
    Node.leavesOf nodes = leaves ∧
    ∀ path ≠ [], s.Shadowed path → ∃ node, Node.atPath path nodes = [node]

/-- The values of each entry that no other shadows, in the order of the segments. -/
def values (s : Settings) : List (List String × String) := s.ends.flatMap valuesAt

theorem ReadsAs.unique {other : List (List String × String)} (h : s.ReadsAs leaves)
    (hother : s.ReadsAs other) : leaves = other := by
  obtain ⟨nodes, hread, rfl, -⟩ := h
  obtain ⟨others, hreadOther, rfl, -⟩ := hother
  exact congrArg Node.leavesOf (Prod.mk.inj (Option.some.inj (hread.symm.trans hreadOther))).2

theorem leavesOf_ofSettings (h : s.Writable) :
    Node.leavesOf (nodesOf (ofSettings s).children) = s.values := by
  rw [leaves_nodesOf, endsOf_children h, ends_ofSettings h, values]

theorem readsAs_asRead (h : s.Writable) (hends : ∀ e ∈ s.ends, Spelled e) :
    s.ReadsAs (s.values.map (Prod.map id asRead)) := by
  refine ⟨(nodesOf (ofSettings s).children).map Node.asRead, ?_, ?_, ?_⟩
  · rw [settings_eq]
    refine document?_textOf ((grown_ofSettings h).readable_nodesOf ?_)
    rwa [endsOf_children h, ends_ofSettings h]
  · rw [← Node.asReadAll_eq, Node.leavesOf_asReadAll, leavesOf_ofSettings h]
  -- A path is shadowed just where the tree has children, and the elements of a tree with children
  -- are a single branch.
  · intro path hpath hshadowed
    obtain ⟨sub, hsub, hchildren⟩ := (shadowed_iff h).1 hshadowed
    obtain ⟨node, hnode⟩ := (grown_ofSettings h).atPath_nodesOf hpath hsub hchildren
    exact ⟨node.asRead, by rw [Node.atPath_asRead, hnode, List.map_singleton]⟩

/-- Nothing is read but names of elements and characters that a document can have. -/
theorem ReadsAs.legible (h : s.ReadsAs leaves) {leaf : List String × String}
    (hleaf : leaf ∈ leaves) : (∀ name ∈ leaf.1, IsName name) ∧ Legal leaf.2.toList := by
  obtain ⟨nodes, hread, rfl, -⟩ := h
  rw [Node.leavesOf_eq] at hleaf
  obtain ⟨node, hnode, hleaf⟩ := List.mem_flatMap.1 hleaf
  exact (document?_sound hread node hnode).legible hleaf

theorem mem_values {path : List String} {value : String} :
    (path, value) ∈ s.values ↔ ∃ e ∈ s.ends, e.1 = path ∧ value ∈ e.2.values := by
  simp [values, valuesAt, and_comm]

theorem ReadsAs.spelled (h : s.Writable) (hreads : s.ReadsAs s.values) :
    ∀ e ∈ s.ends, Spelled e := by
  intro e he
  have hleaf {value : String} (hvalue : value ∈ e.2.values) : (e.1, value) ∈ s.values :=
    mem_values.2 ⟨e, he, rfl, hvalue⟩
  obtain ⟨⟨entry, hentry, -, hsetting⟩, -⟩ := mem_ends.1 he
  obtain ⟨value, hvalue⟩ := List.exists_mem_of_ne_nil _ (hsetting ▸ h entry hentry)
  exact ⟨(hreads.legible (hleaf hvalue)).1, fun value hvalue => (hreads.legible (hleaf hvalue)).2⟩

theorem asRead_eq_self_iff {value : String} : asRead value = value ↔ '\r' ∉ value.toList := by
  rw [asRead, ← lineEnds_eq_self_iff, ← String.toList_inj, String.toList_ofList]

theorem map_asRead_values_iff : s.values.map (Prod.map id asRead) = s.values ↔
    ∀ e ∈ s.ends, ∀ value ∈ e.2.values, '\r' ∉ value.toList := by
  rw [← List.map_id s.values, List.map_map, List.map_inj_left]
  constructor
  · intro h e he value hvalue
    have hleaf := h (e.1, value) (mem_values.2 ⟨e, he, rfl, hvalue⟩)
    exact asRead_eq_self_iff.1 (congrArg Prod.snd hleaf)
  · rintro h ⟨path, value⟩ hleaf
    obtain ⟨e, he, rfl, hvalue⟩ := mem_values.1 hleaf
    exact congrArg (Prod.mk e.1) (asRead_eq_self_iff.2 (h e he value hvalue))

/-- Settings are read back as they are just if all that is written are names of elements and
characters that a document can have, and no carriage returns. These are read as line ends; with
another character the document is not well-formed. -/
theorem reads_back_iff (h : s.Writable) :
    (s.ReadsAs s.values ↔
      (∀ e ∈ s.ends, Spelled e) ∧ ∀ e ∈ s.ends, ∀ value ∈ e.2.values, '\r' ∉ value.toList) ∧
    ((∀ e ∈ s.ends, Spelled e) → s.ReadsAs (s.values.map (Prod.map id asRead))) ∧
    ((∃ e ∈ s.ends, ∃ value ∈ e.2.values, ¬Legal value.toList) →
      document? (XmlWriter.document.settings s).finish = none) := by
  refine ⟨⟨fun hreads => ?_, fun ⟨hends, hplain⟩ => ?_⟩, readsAs_asRead h, ?_⟩
  · have hends := hreads.spelled h
    exact ⟨hends, map_asRead_values_iff.1 ((readsAs_asRead h hends).unique hreads)⟩
  · have hreads := readsAs_asRead h hends
    rwa [map_asRead_values_iff.2 hplain] at hreads
  · rintro ⟨e, he, value, hvalue, hlegal⟩
    have hleaf : (e.1, value) ∈ Node.leavesOf (nodesOf (ofSettings s).children) :=
      leavesOf_ofSettings h ▸ mem_values.2 ⟨e, he, rfl, hvalue⟩
    obtain ⟨tag, hpiece⟩ := Node.mem_pieces_of_mem_leavesOf _ hleaf
    rw [Node.piecesOf_eq] at hpiece
    refine Option.eq_none_iff_forall_ne_some.2 fun found hfound => hlegal ?_
    rw [settings_eq] at hfound
    exact legal_of_document? hfound hpiece

/-- As a text, a path with a dash comes before one that goes on at the same place. -/
def dashed : Settings where
  entries := ⟨[("a", .scalar "hidden"), ("a-b", .scalar "<&>"), ("a/b", .vector ["1", "2"]),
    ("a/c/d", .scalar "")], by decide⟩

theorem reads_back_dashed :
    dashed.Writable ∧ dashed.ReadsAs
      [(["a", "b"], "1"), (["a", "b"], "2"), (["a", "c", "d"], ""), (["a-b"], "<&>")] := by
  have hdashed : dashed.Writable := by decide
  have hvalues : dashed.values =
      [(["a", "b"], "1"), (["a", "b"], "2"), (["a", "c", "d"], ""), (["a-b"], "<&>")] := by
    decide
  refine ⟨hdashed, ?_⟩
  rw [← hvalues]
  exact (reads_back_iff hdashed).1.2 ⟨by decide, by decide⟩

/-- A value of two lines, the first of which ends with a carriage return and a line feed. -/
def twoLines : Settings where
  entries := ⟨[("a", .scalar "x\r\ny")], by decide⟩

def controlled : Settings where
  entries := ⟨[("a", .scalar "x\x01")], by decide⟩

/-- A carriage return would have to be written by its number to be read back, and a control
character cannot be written at all. -/
theorem carriage_return_lost :
    twoLines.Writable ∧ (∀ entry ∈ twoLines.entries.entries,
        ∀ name ∈ Text.split '/' entry.1, IsName name) ∧
      (XmlWriter.document.settings twoLines).finish =
        "<yandex>\n    <a>x\r\ny</a>\n</yandex>\n" ∧
      ¬twoLines.ReadsAs twoLines.values ∧ twoLines.ReadsAs [(["a"], "x\ny")] ∧
      document? "<yandex>\n    <a>x&#13;\ny</a>\n</yandex>\n" =
        some (rootTag, [.leaf "a" "x\r\ny"]) ∧
      controlled.Writable ∧ ¬controlled.ReadsAs controlled.values := by
  have htwo : twoLines.Writable := by decide
  have hcontrolled : controlled.Writable := by decide
  have hreads : twoLines.ReadsAs [(["a"], "x\ny")] := readsAs_asRead htwo (by decide)
  refine ⟨htwo, by decide, by decide, fun h => ?_, hreads, by rfl, hcontrolled, fun h => ?_⟩
  · exact absurd (h.unique hreads) (by decide)
  · exact absurd (h.spelled hcontrolled) (by decide)

end Settings

end ShardOperator
