import ShardOperator.Proofs.Files.Documents

namespace ShardOperator.Xml

/-- A text as it is read: with its line ends as line feeds. -/
def asRead (value : String) : String := String.ofList (lineEnds value.toList)

section Escaping

variable {c : Char} {value : List Char}

theorem not_mem_escapeChar (h : c ≠ '\r') : '\r' ∉ escapeChar c := by
  unfold escapeChar
  split
  case h_6 => exact fun hmem => h (List.mem_singleton.1 hmem).symm
  all_goals decide

theorem legal_escapeChar : Legal (escapeChar c) ↔ IsChar c := by
  unfold escapeChar
  split
  case h_6 => exact List.forall_mem_singleton
  all_goals decide

theorem legal_escaped : Legal (value.flatMap escapeChar) ↔ Legal value := by
  induction value with
  | nil => rfl
  | cons c rest ih =>
    rw [List.flatMap_cons, Legal, List.forall_mem_append, Legal, List.forall_mem_cons]
    exact and_congr legal_escapeChar ih

theorem exists_escapeChar (c : Char) :
    ∃ first rest, escapeChar c = first :: rest ∧ (first = '\n' ↔ c = '\n') := by
  unfold escapeChar
  split
  case h_6 => exact ⟨c, [], rfl, Iff.rfl⟩
  all_goals exact ⟨'&', _, rfl, by decide⟩

theorem head?_escaped :
    (value.flatMap escapeChar).head? = some '\n' ↔ value.head? = some '\n' := by
  cases value with
  | nil => rfl
  | cons c rest =>
    obtain ⟨first, more, hescape, hfeed⟩ := exists_escapeChar c
    rw [List.flatMap_cons, hescape, List.cons_append, List.head?_cons, List.head?_cons,
      Option.some.injEq, Option.some.injEq, hfeed]

/-- What escapes a text leaves its line ends as they are. -/
theorem lineEnds_escaped (value : List Char) :
    lineEnds (value.flatMap escapeChar) = (lineEnds value).flatMap escapeChar := by
  induction value with
  | nil => rfl
  | cons c rest ih =>
    by_cases hc : c = '\r'
    · subst hc
      have hkept : escapeChar '\r' = ['\r'] := rfl
      rw [List.flatMap_cons, hkept, List.singleton_append, lineEnds, lineEnds, ih]
      simp only [if_true, head?_escaped]
      split <;> rfl
    · have hown := not_mem_escapeChar hc
      have hlast : (escapeChar c).getLast? ≠ some '\r' := fun h => hown (List.mem_of_getLast? h)
      rw [List.flatMap_cons, lineEnds_append (absurd · hlast), lineEnds_eq_self_iff.2 hown, ih,
        lineEnds, if_neg hc, List.flatMap_cons]

end Escaping

namespace Reader

variable {f g : Frame} {outer : List Frame}

theorem run_append (r : Reader) (text more : List Char) :
    r.run (text ++ more) = (r.run text).bind (·.run more) :=
  List.foldlM_append

theorem run_singleton (r : Reader) (c : Char) : r.run [c] = r.step c := by
  simp only [run, List.foldlM_cons, List.foldlM_nil, bind_pure]

theorem step_plain {c : Char} (h : c ∉ ['<', '>', '&']) (f : Frame) :
    step ⟨.text, f :: outer⟩ c = some ⟨.text, { f with text := f.text ++ [c] } :: outer⟩ := by
  simp only [List.mem_cons, List.not_mem_nil, or_false, not_or] at h
  obtain ⟨hlt, hgt, hamp⟩ := h
  simp only [step, if_neg hlt, if_neg hamp, put, hgt, false_and, if_false, Option.map_some]

theorem run_plain {text : List Char} (h : ∀ c ∈ text, c ∉ ['<', '>', '&']) (f : Frame) :
    run ⟨.text, f :: outer⟩ text = some ⟨.text, { f with text := f.text ++ text } :: outer⟩ := by
  induction text generalizing f with
  | nil => rw [List.append_nil]; rfl
  | cons c rest ih =>
    obtain ⟨hc, hrest⟩ := List.forall_mem_cons.1 h
    rw [run, List.foldlM_cons, step_plain hc]
    refine (ih hrest _).trans ?_
    rw [List.append_assoc, List.singleton_append]

theorem run_escapeChar (c : Char) (f : Frame) :
    run ⟨.text, f :: g :: outer⟩ (escapeChar c) =
      some ⟨.text, { f with text := f.text ++ [c] } :: g :: outer⟩ := by
  unfold escapeChar
  split
  case h_6 hamp hlt hgt _ _ =>
    have hplain : c ∉ ['<', '>', '&'] := by
      simpa using ⟨hlt, hgt, hamp⟩
    rw [run_singleton]
    exact step_plain hplain f
  all_goals rfl

/-- A value is read as it was before it was escaped. -/
theorem run_escaped (value : List Char) (f : Frame) :
    run ⟨.text, f :: g :: outer⟩ (value.flatMap escapeChar) =
      some ⟨.text, { f with text := f.text ++ value } :: g :: outer⟩ := by
  induction value generalizing f with
  | nil => rw [List.append_nil]; rfl
  | cons c rest ih =>
    rw [List.flatMap_cons, run_append, run_escapeChar, Option.bind_some, ih, List.append_assoc,
      List.singleton_append]

theorem run_tag {name : List Char} (h : '>' ∉ name) (frames : List Frame) :
    run ⟨.text, frames⟩ ('<' :: name ++ ['>']) = (endTag frames name).map (⟨.text, ·⟩) := by
  have hread (read : List Char) : run ⟨.tag read, frames⟩ name =
      some ⟨.tag (read ++ name), frames⟩ := by
    induction name generalizing read with
    | nil => rw [List.append_nil]; rfl
    | cons c rest ih =>
      obtain ⟨hc, hrest⟩ := not_or.1 (mt List.mem_cons.2 h)
      have hstep : step ⟨.tag read, frames⟩ c = some ⟨.tag (read ++ [c]), frames⟩ := by
        simp only [step, if_neg (Ne.symm hc)]
      rw [run, List.foldlM_cons, hstep]
      refine (ih hrest _).trans ?_
      rw [List.append_assoc, List.singleton_append]
  have hopen : run ⟨.text, frames⟩ ['<'] = some ⟨.tag [], frames⟩ := rfl
  have hend : run ⟨.tag name, frames⟩ ['>'] = (endTag frames name).map (⟨.text, ·⟩) := by
    rw [run_singleton, step]
    exact if_pos rfl
  rw [List.cons_append, ← List.singleton_append, run_append, hopen, Option.bind_some, run_append,
    hread, List.nil_append, Option.bind_some, hend]

end Reader

section Tags

variable {tag : String} {name : List Char}

def openingText (tag : String) : List Char := '<' :: tag.toList ++ ['>']

def closingText (tag : String) : List Char := '<' :: ('/' :: tag.toList) ++ ['>']

theorem toList_opening (tag : String) : ("<" ++ tag ++ ">").toList = openingText tag := by
  simp only [String.toList_append]
  rfl

theorem toList_closing (tag : String) : ("</" ++ tag ++ ">").toList = closingText tag := by
  simp only [String.toList_append]
  rfl

theorem toList_element (tag value : String) :
    ("<" ++ tag ++ ">" ++ escape value ++ "</" ++ tag ++ ">").toList =
      openingText tag ++ (value.toList.flatMap escapeChar ++ closingText tag) := by
  rw [← toList_opening, ← toList_closing]
  simp only [escape, String.toList_append, String.toList_ofList, List.append_assoc]

theorem legal_tag (h : Legal name) : Legal ('<' :: name ++ ['>']) :=
  Legal.append (List.forall_mem_cons.2 ⟨by decide, h⟩) (by decide)

theorem IsName.legal_opening (h : IsName tag) : Legal (openingText tag) := legal_tag h.legal

theorem IsName.legal_closing (h : IsName tag) : Legal (closingText tag) :=
  legal_tag (List.forall_mem_cons.2 ⟨by decide, h.legal⟩)

theorem lineEnds_tag (h : '\r' ∉ name) : lineEnds ('<' :: name ++ ['>']) = '<' :: name ++ ['>'] :=
  lineEnds_eq_self_iff.2 (by simp [h])

theorem IsName.lineEnds_opening (h : IsName tag) : lineEnds (openingText tag) = openingText tag :=
  lineEnds_tag (h.not_mem (by decide))

theorem IsName.lineEnds_closing (h : IsName tag) : lineEnds (closingText tag) = closingText tag :=
  lineEnds_tag (List.not_mem_cons_of_ne_of_not_mem (by decide) (h.not_mem (by decide)))

theorem Reader.run_opening (h : IsName tag) (frames : List Frame) :
    run ⟨.text, frames⟩ (openingText tag) = some ⟨.text, { tag } :: frames⟩ := by
  have hend : endTag frames tag.toList = some ({ tag } :: frames) := by
    unfold endTag
    split
    · next name hname =>
      exact absurd (hname ▸ List.mem_cons_self ..) (h.not_mem (by decide : ¬Within _ '/'))
    · rw [String.ofList_toList]
      exact if_pos h
  rw [openingText, run_tag (h.not_mem (by decide)), hend]
  rfl

theorem Reader.run_closing (h : IsName tag) (frames : List Frame) :
    run ⟨.text, frames⟩ (closingText tag) = (close tag frames).map (⟨.text, ·⟩) := by
  have hname : '>' ∉ '/' :: tag.toList :=
    List.not_mem_cons_of_ne_of_not_mem (by decide) (h.not_mem (by decide))
  rw [closingText, run_tag hname, endTag, String.ofList_toList]

end Tags

/-- The open elements by their names and the elements in them. Beside those there is only white
space. -/
def Holds (frames : List Frame) (elements : List (String × List Node)) : Prop :=
  (∀ f ∈ frames, Blank f.text) ∧ frames.map (fun f => (f.tag, f.nodes)) = elements

/-- A reader takes the text from some open elements to others. -/
def Takes (text : List Char) (before after : List (String × List Node)) : Prop :=
  ∀ frames, Holds frames before →
    ∃ next, Reader.run ⟨.text, frames⟩ text = some ⟨.text, next⟩ ∧ Holds next after

section Reading

variable {frames : List Frame} {tag top : String} {nodes children : List Node}
  {outer before middle after : List (String × List Node)} {text more : List Char}

theorem holds_cons_iff : Holds frames ((tag, nodes) :: outer) ↔
    ∃ text frames', frames = ⟨tag, text, nodes⟩ :: frames' ∧ Blank text ∧ Holds frames' outer := by
  constructor
  · rintro ⟨hblank, helements⟩
    obtain ⟨f, frames', rfl, hf, hrest⟩ := List.map_eq_cons_iff.1 helements
    obtain ⟨htext, hblank⟩ := List.forall_mem_cons.1 hblank
    obtain ⟨rfl, rfl⟩ := Prod.mk.inj hf
    exact ⟨f.text, frames', rfl, htext, hblank, hrest⟩
  · rintro ⟨text, frames', rfl, htext, hblank, rfl⟩
    exact ⟨List.forall_mem_cons.2 ⟨htext, hblank⟩, rfl⟩

theorem Takes.append (h : Takes text before middle) (hmore : Takes more middle after) :
    Takes (text ++ more) before after := by
  intro frames hframes
  obtain ⟨next, hrun, hnext⟩ := h frames hframes
  obtain ⟨last, hrunMore, hlast⟩ := hmore next hnext
  refine ⟨last, ?_, hlast⟩
  rw [Reader.run_append, hrun, Option.bind_some, hrunMore]

theorem takes_blank (h : Blank text) :
    Takes text ((top, nodes) :: outer) ((top, nodes) :: outer) := by
  intro frames hframes
  obtain ⟨old, frames', rfl, hold, hrest⟩ := holds_cons_iff.1 hframes
  have hspace : ∀ c ∈ space, c ∉ ['<', '>', '&'] := by
    simp [space]
  exact ⟨_, Reader.run_plain (fun c hc => hspace c (h c hc)) _,
    holds_cons_iff.2 ⟨_, frames', rfl, blank_append hold h, hrest⟩⟩

theorem takes_opening (h : IsName tag) : Takes (openingText tag) outer ((tag, []) :: outer) :=
  fun frames hframes =>
    ⟨_, Reader.run_opening h frames, holds_cons_iff.2 ⟨[], frames, rfl, nofun, hframes⟩⟩

/-- What is closed becomes the last of the elements around it. -/
theorem takes_closing (h : IsName tag) (hchildren : children ≠ []) :
    Takes (closingText tag) ((tag, children) :: (top, nodes) :: outer)
      ((top, nodes ++ [.branch tag children]) :: outer) := by
  intro frames hframes
  obtain ⟨text, frames', rfl, htext, hframes⟩ := holds_cons_iff.1 hframes
  obtain ⟨around, rest, rfl, haround, hrest⟩ := holds_cons_iff.1 hframes
  have hnode : Frame.node? ⟨tag, text, children⟩ = some (.branch tag children) := by
    rw [Frame.node?, if_neg (mt List.isEmpty_iff.1 hchildren), if_pos htext]
  refine ⟨⟨top, around, nodes ++ [.branch tag children]⟩ :: rest, ?_,
    holds_cons_iff.2 ⟨around, rest, rfl, haround, hrest⟩⟩
  rw [Reader.run_closing h, Reader.close, if_pos rfl, hnode]
  rfl

theorem takes_element (h : IsName tag) (value : List Char) :
    Takes (openingText tag ++ (value.flatMap escapeChar ++ closingText tag))
      ((top, nodes) :: outer) ((top, nodes ++ [.leaf tag (String.ofList value)]) :: outer) := by
  intro frames hframes
  obtain ⟨around, rest, rfl, haround, hrest⟩ := holds_cons_iff.1 hframes
  refine ⟨⟨top, around, nodes ++ [.leaf tag (String.ofList value)]⟩ :: rest, ?_,
    holds_cons_iff.2 ⟨around, rest, rfl, haround, hrest⟩⟩
  rw [Reader.run_append, Reader.run_opening h, Option.bind_some, Reader.run_append,
    Reader.run_escaped, Option.bind_some, Reader.run_closing h, Reader.close, if_pos rfl]
  simp only [Frame.node?, List.isEmpty_nil, if_true, Option.map_some, List.nil_append]

end Reading

end ShardOperator.Xml

namespace ShardOperator.XmlWriter

open Xml

/-- What has been written consists of characters that a document can have, and leaves these elements
open. -/
structure Stands (w : XmlWriter) (elements : List (String × List Node)) : Prop where
  legal : Legal w.text.toList
  taken : ∃ frames, Reader.start.run (lineEnds w.text.toList) = some ⟨.text, frames⟩ ∧
    Holds frames elements

section Writing

variable {w : XmlWriter} {tag top content : String} {nodes children : List Node}
  {outer : List (String × List Node)} {before after : String × List Node}
  {inside beside : List (String × List Node)} {markup : List Char}

theorem blank_indent (w : XmlWriter) : Blank (List.replicate (4 * w.depth) ' ') := fun _ hc =>
  List.eq_of_mem_replicate hc ▸ by decide

theorem toList_line (w : XmlWriter) (content : String) : (w.line content).text.toList =
    w.text.toList ++ (List.replicate (4 * w.depth) ' ' ++ (content.toList ++ ['\n'])) := by
  simp only [line, String.toList_append, String.toList_ofList, List.append_assoc]
  rfl

/-- No line end is taken apart where a line of markup begins or ends. -/
theorem lineEnds_line (h : content.toList = '<' :: markup ++ ['>']) :
    lineEnds (w.line content).text.toList = lineEnds w.text.toList ++
      (List.replicate (4 * w.depth) ' ' ++ (lineEnds content.toList ++ ['\n'])) := by
  have hhead : (List.replicate (4 * w.depth) ' ' ++ (content.toList ++ ['\n'])).head? ≠
      some '\n' := by
    rw [h, List.head?_append, List.head?_replicate]
    split
    · exact fun hlt => absurd (Option.some.inj hlt) (by decide)
    · exact fun hblank => absurd (Option.some.inj hblank) (by decide)
  have hindent : lineEnds (List.replicate (4 * w.depth) ' ') = List.replicate (4 * w.depth) ' ' :=
    lineEnds_eq_self_iff.2 fun hmem => absurd (List.eq_of_mem_replicate hmem) (by decide)
  have hlast : content.toList.getLast? ≠ some '\r' := by
    rw [h, List.getLast?_concat]
    decide
  have hfirst : (content.toList ++ ['\n']).head? ≠ some '\n' := by
    rw [h]
    exact fun hlt => absurd (Option.some.inj hlt) (by decide)
  rw [toList_line, lineEnds_append fun _ => hhead, lineEnds_append fun _ => hfirst, hindent,
    lineEnds_append (absurd · hlast)]
  rfl

/-- A line is laid out with white space, which makes no difference. -/
theorem Stands.line (h : w.Stands (before :: inside))
    (hmarkup : content.toList = '<' :: markup ++ ['>']) (hlegal : Legal content.toList)
    (hcontent : Takes (lineEnds content.toList) (before :: inside) (after :: beside)) :
    (w.line content).Stands (after :: beside) where
  legal := by
    rw [toList_line]
    exact h.legal.append (w.blank_indent.legal.append (hlegal.append (by decide)))
  taken := by
    obtain ⟨frames, hrun, hframes⟩ := h.taken
    have hfeed : Blank ['\n'] := by decide
    obtain ⟨next, hnext, hafter⟩ :=
      ((takes_blank w.blank_indent).append (hcontent.append (takes_blank hfeed))) frames hframes
    refine ⟨next, ?_, hafter⟩
    rw [lineEnds_line hmarkup, Reader.run_append, hrun, Option.bind_some, hnext]

theorem Stands.openTag (h : w.Stands (before :: inside)) (hname : IsName tag) :
    (w.openTag tag).Stands ((tag, []) :: before :: inside) := by
  have hopening : (w.line ("<" ++ tag ++ ">")).Stands ((tag, []) :: before :: inside) := by
    refine h.line (toList_opening tag) ?_ ?_
    · rw [toList_opening]
      exact hname.legal_opening
    · rw [toList_opening, hname.lineEnds_opening]
      exact takes_opening hname
  exact ⟨hopening.legal, hopening.taken⟩

theorem Stands.closeTag (h : w.Stands ((tag, children) :: (top, nodes) :: outer))
    (hname : IsName tag) (hchildren : children ≠ []) :
    (w.closeTag tag).Stands ((top, nodes ++ [.branch tag children]) :: outer) := by
  have hbefore : Stands { w with depth := w.depth - 1 }
      ((tag, children) :: (top, nodes) :: outer) := ⟨h.legal, h.taken⟩
  refine hbefore.line (toList_closing tag) ?_ ?_
  · rw [toList_closing]
    exact hname.legal_closing
  · rw [toList_closing, hname.lineEnds_closing]
    exact takes_closing hname hchildren

theorem Stands.element {value : String} (h : w.Stands ((top, nodes) :: outer)) (hname : IsName tag)
    (hvalue : Legal value.toList) :
    (w.element tag value).Stands ((top, nodes ++ [.leaf tag (asRead value)]) :: outer) := by
  have hmarkup : openingText tag ++ (value.toList.flatMap escapeChar ++ closingText tag) =
      '<' :: (tag.toList ++ '>' :: (value.toList.flatMap escapeChar ++ '<' :: '/' :: tag.toList)) ++
        ['>'] := by
    simp [openingText, closingText]
  have hclosed : (closingText tag).head? ≠ some '\n' := fun hlt =>
    absurd (Option.some.inj hlt) (by decide)
  have hopened : (openingText tag).getLast? ≠ some '\r' := by
    rw [openingText, List.getLast?_concat]
    decide
  refine h.line ((toList_element tag value).trans hmarkup) ?_ ?_
  · rw [toList_element]
    exact hname.legal_opening.append ((legal_escaped.2 hvalue).append hname.legal_closing)
  · rw [toList_element, lineEnds_append (absurd · hopened), hname.lineEnds_opening,
      lineEnds_append fun _ => hclosed, lineEnds_escaped, hname.lineEnds_closing]
    exact takes_element hname _

end Writing

end ShardOperator.XmlWriter

namespace ShardOperator.Xml

open XmlWriter

namespace Node

mutual

/-- An element as it is read. -/
def asRead : Node → Node
  | .leaf tag value => .leaf tag (Xml.asRead value)
  | .branch tag children attr => .branch tag (asReadAll children) attr

def asReadAll : List Node → List Node
  | [] => []
  | node :: rest => node.asRead :: asReadAll rest

end

theorem asReadAll_eq (nodes : List Node) : asReadAll nodes = nodes.map asRead := by
  induction nodes with
  | nil => rfl
  | cons node rest ih => rw [asReadAll, ih, List.map_cons]

end Node

/-- Written where an element is open, the element is read as the last one in it. -/
def Node.ReadsBack (node : Node) : Prop :=
  ∀ {w : XmlWriter} {top : String} {nodes : List Node} {outer : List (String × List Node)},
    w.Stands ((top, nodes) :: outer) →
      (w.putAll node.pieces).Stands ((top, nodes ++ [node.asRead]) :: outer)

section Documents

variable {w : XmlWriter} {top : String} {nodes more : List Node}
  {outer : List (String × List Node)}

theorem stands_putAll (hmore : ∀ node ∈ more, node.ReadsBack)
    (h : w.Stands ((top, nodes) :: outer)) :
    (w.putAll (more.flatMap Node.pieces)).Stands
      ((top, nodes ++ more.map Node.asRead) :: outer) := by
  induction more generalizing w nodes with
  | nil => rwa [List.map_nil, List.append_nil]
  | cons node rest ih =>
    obtain ⟨hnode, hrest⟩ := List.forall_mem_cons.1 hmore
    rw [List.flatMap_cons, putAll_append, List.map_cons, List.append_cons]
    exact ih hrest (hnode h)

theorem Node.Readable.readsBack {node : Node} (h : node.Readable) : node.ReadsBack := by
  -- The elements in a branch are written where the branch is the open element around them.
  induction h with
  | leaf name legal => exact fun h => h.element name legal
  | branch name inhabited _ ih =>
    intro w top nodes outer h
    rw [pieces_branch, putAll_append, putAll_append, asRead, asReadAll_eq]
    exact (stands_putAll ih (h.openTag name)).closeTag name (mt List.map_eq_nil_iff.1 inhabited)

theorem isName_rootTag : IsName rootTag := by decide

theorem stands_document : document.Stands [(rootTag, []), ("", [])] := by
  have hstart : Stands {} [("", [])] :=
    ⟨nofun, Reader.start.frames, rfl, holds_cons_iff.2 ⟨[], [], rfl, nofun, nofun, rfl⟩⟩
  exact hstart.openTag isName_rootTag

/-- The root is the one element that may have nothing in it but layout. -/
theorem exists_node (tag : String) (nodes : List Node) {text : List Char} (h : Blank text) :
    ∃ node : Node, Frame.node? ⟨tag, text, nodes⟩ = some node ∧ node.tag = tag ∧
      node.inside? = some nodes := by
  cases nodes with
  | nil =>
    refine ⟨.leaf tag (String.ofList text), rfl, rfl, ?_⟩
    rw [Node.inside?, String.toList_ofList, if_pos h]
  | cons first rest => exact ⟨.branch tag (first :: rest), if_pos h, rfl, rfl⟩

theorem document?_finish (h : w.Stands [(rootTag, nodes), ("", [])]) :
    document? w.finish = some (rootTag, nodes) := by
  obtain ⟨frames, hrun, hframes⟩ := h.taken
  obtain ⟨inside, frames, rfl, hinside, hframes⟩ := holds_cons_iff.1 hframes
  obtain ⟨outside, frames, rfl, houtside, -, hnone⟩ := holds_cons_iff.1 hframes
  obtain rfl := List.map_eq_nil_iff.1 hnone
  obtain ⟨root, hroot, htag, hnodes⟩ := exists_node rootTag nodes hinside
  have hclose : Reader.run ⟨.text, [⟨rootTag, inside, nodes⟩, ⟨"", outside, []⟩]⟩
      (closingText rootTag) = some ⟨.text, [⟨"", outside, [root]⟩]⟩ := by
    rw [Reader.run_closing isName_rootTag, Reader.close, if_pos rfl, hroot]
    rfl
  have hfeed : Reader.run ⟨.text, [⟨"", outside, [root]⟩]⟩ ['\n'] =
      some ⟨.text, [⟨"", outside ++ ['\n'], [root]⟩]⟩ := rfl
  have htext : w.finish = (XmlWriter.line { w with depth := 0 } ("</" ++ rootTag ++ ">")).text :=
    rfl
  have hlegal : Legal w.finish.toList := by
    rw [htext, toList_line, toList_closing]
    exact h.legal.append (isName_rootTag.legal_closing.append (by decide))
  have hlines : lineEnds w.finish.toList =
      lineEnds w.text.toList ++ (closingText rootTag ++ ['\n']) := by
    rw [htext, lineEnds_line (toList_closing rootTag), toList_closing,
      isName_rootTag.lineEnds_closing]
    rfl
  have hblank : Blank (outside ++ ['\n']) := blank_append houtside (by decide)
  rw [document?, if_pos hlegal, read?, hlines, Reader.run_append, hrun, Option.bind_some,
    Reader.run_append, hclose, Option.bind_some, hfeed]
  simp only [Option.bind_eq_bind, Option.bind_some, if_pos hblank, hnodes, htag, Option.map_some]

/-- A document of readable elements is well-formed, and has these elements in it. -/
theorem document?_textOf (h : ∀ node ∈ nodes, node.Readable) :
    document? (textOf nodes) = some (rootTag, nodes.map Node.asRead) :=
  document?_finish (stands_putAll (fun node hnode => (h node hnode).readsBack) stands_document)

end Documents

section Refusal

variable {w : XmlWriter} {nodes : List Node} {pieces : List Piece}

theorem legal_of_line {content : String} (h : Legal (w.line content).text.toList) :
    Legal w.text.toList ∧ Legal content.toList := by
  rw [toList_line] at h
  obtain ⟨hbefore, h⟩ := List.forall_mem_append.1 h
  exact ⟨hbefore, (List.forall_mem_append.1 (List.forall_mem_append.1 h).2).1⟩

theorem legal_of_put {piece : Piece} (h : Legal (w.put piece).text.toList) :
    Legal w.text.toList ∧ ∀ tag value, piece = .element tag value → Legal value.toList := by
  cases piece with
  | opening => exact ⟨(legal_of_line h).1, nofun⟩
  | openingWith => exact ⟨(legal_of_line h).1, nofun⟩
  | closing tag =>
    exact ⟨(legal_of_line (w := { w with depth := w.depth - 1 }) h).1, nofun⟩
  | element tag value =>
    obtain ⟨hbefore, h⟩ := legal_of_line h
    refine ⟨hbefore, fun _ _ heq => ?_⟩
    obtain ⟨rfl, rfl⟩ := Piece.element.inj heq
    rw [toList_element] at h
    exact legal_escaped.1 (List.forall_mem_append.1 (List.forall_mem_append.1 h).2).1

theorem legal_of_putAll (h : Legal (w.putAll pieces).text.toList) :
    Legal w.text.toList ∧ ∀ tag value, .element tag value ∈ pieces → Legal value.toList := by
  induction pieces generalizing w with
  | nil => exact ⟨h, nofun⟩
  | cons piece rest ih =>
    obtain ⟨hput, hrest⟩ := ih h
    obtain ⟨hbefore, hpiece⟩ := legal_of_put hput
    refine ⟨hbefore, fun tag value hmem => ?_⟩
    rcases List.mem_cons.1 hmem with heq | hmem
    · exact hpiece tag value heq.symm
    · exact hrest tag value hmem

/-- A document in which a value has another character is not well-formed. -/
theorem legal_of_document? {found : String × List Node} {tag value : String}
    (h : document? (textOf nodes) = some found)
    (hvalue : .element tag value ∈ nodes.flatMap Node.pieces) : Legal value.toList := by
  unfold document? at h
  split at h
  · next hlegal => exact (legal_of_putAll (legal_of_line hlegal).1).2 tag value hvalue
  · cases h

end Refusal

end ShardOperator.Xml
