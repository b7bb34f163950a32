import ShardOperator.Proofs.Files.Elements
import ShardOperator.Yaml.Basic

namespace ShardOperator.Xml

section Characters

/-- The characters that a document can have (XML 1.0, `Char`), by their numbers. -/
def charRanges : List (Nat × Nat) :=
  [(0x09, 0x0A), (0x0D, 0x0D), (0x20, 0xD7FF), (0xE000, 0xFFFD), (0x10000, 0x10FFFF)]

/-- The characters that a name can begin with (`NameStartChar`). -/
def nameStartRanges : List (Nat × Nat) :=
  [(0x3A, 0x3A), (0x41, 0x5A), (0x5F, 0x5F), (0x61, 0x7A), (0xC0, 0xD6), (0xD8, 0xF6),
   (0xF8, 0x2FF), (0x370, 0x37D), (0x37F, 0x1FFF), (0x200C, 0x200D), (0x2070, 0x218F),
   (0x2C00, 0x2FEF), (0x3001, 0xD7FF), (0xF900, 0xFDCF), (0xFDF0, 0xFFFD), (0x10000, 0xEFFFF)]

/-- The characters that a name can go on with (`NameChar`). -/
def nameRanges : List (Nat × Nat) :=
  nameStartRanges ++ [(0x2D, 0x2E), (0x30, 0x39), (0xB7, 0xB7), (0x300, 0x36F), (0x203F, 0x2040)]

def Within (ranges : List (Nat × Nat)) (c : Char) : Prop :=
  ∃ r ∈ ranges, r.1 ≤ c.toNat ∧ c.toNat ≤ r.2

instance (ranges : List (Nat × Nat)) : DecidablePred (Within ranges) := fun c =>
  inferInstanceAs (Decidable (∃ r ∈ ranges, r.1 ≤ c.toNat ∧ c.toNat ≤ r.2))

def IsChar : Char → Prop := Within charRanges

instance : DecidablePred IsChar := inferInstanceAs (DecidablePred (Within charRanges))

/-- A text of characters that a document can have. -/
def Legal (text : List Char) : Prop := ∀ c ∈ text, IsChar c

instance (text : List Char) : Decidable (Legal text) := List.decidableBAll IsChar text

/-- A name of an element (`Name`). -/
def IsName (tag : String) : Prop :=
  (∃ c ∈ tag.toList.head?, Within nameStartRanges c) ∧ ∀ c ∈ tag.toList, Within nameRanges c

instance (tag : String) : Decidable (IsName tag) :=
  have : Decidable (∃ c ∈ tag.toList.head?, Within nameStartRanges c) :=
    Option.decidableExistsMem _
  have := List.decidableBAll (Within nameRanges) tag.toList
  inferInstanceAs (Decidable (_ ∧ _))

variable {c : Char} {tag : String} {text more : List Char}

theorem Within.mono {ranges wider : List (Nat × Nat)}
    (h : ∀ r ∈ ranges, ∃ q ∈ wider, q.1 ≤ r.1 ∧ r.2 ≤ q.2) (hc : Within ranges c) :
    Within wider c := by
  obtain ⟨r, hr, hlow, hhigh⟩ := hc
  obtain ⟨q, hq, hfirst, hlast⟩ := h r hr
  exact ⟨q, hq, Nat.le_trans hfirst hlow, Nat.le_trans hhigh hlast⟩

theorem IsName.not_mem (h : IsName tag) (hc : ¬Within nameRanges c) : c ∉ tag.toList :=
  fun hmem => hc (h.2 c hmem)

theorem IsName.legal (h : IsName tag) : Legal tag.toList := fun c hc =>
  Within.mono (by decide) (h.2 c hc)

theorem Legal.append (h : Legal text) (hmore : Legal more) : Legal (text ++ more) :=
  List.forall_mem_append.2 ⟨h, hmore⟩

end Characters

section LineEnds

/-- A line ends with a line feed, whether it has been written with a carriage return before it or
with a carriage return alone (XML 1.0, 2.11). -/
def lineEnds : List Char → List Char
  | [] => []
  | c :: rest =>
    if c = '\r' then if rest.head? = some '\n' then lineEnds rest else '\n' :: lineEnds rest
    else c :: lineEnds rest

variable {c : Char} {text more : List Char}

theorem mem_lineEnds (h : c ∈ lineEnds text) : c ≠ '\r' ∧ (c = '\n' ∨ c ∈ text) := by
  induction text with
  | nil => nomatch h
  | cons d rest ih =>
    have hrest (h : c ∈ lineEnds rest) : c ≠ '\r' ∧ (c = '\n' ∨ c ∈ d :: rest) :=
      (ih h).imp_right (Or.imp_right (List.mem_cons_of_mem _))
    unfold lineEnds at h
    split at h
    · split at h
      · exact hrest h
      · rcases List.mem_cons.1 h with rfl | h
        · exact ⟨by decide, .inl rfl⟩
        · exact hrest h
    · next hd =>
      rcases List.mem_cons.1 h with rfl | h
      · exact ⟨hd, .inr (List.mem_cons_self ..)⟩
      · exact hrest h

theorem Legal.lineEnds (h : Legal text) : Legal (lineEnds text) := fun c hc =>
  (mem_lineEnds hc).2.elim (fun hfeed => hfeed ▸ by decide) (h c)

theorem lineEnds_eq_self_iff : lineEnds text = text ↔ '\r' ∉ text := by
  constructor
  · intro h hmem
    exact (mem_lineEnds (h.symm ▸ hmem)).1 rfl
  · intro h
    induction text with
    | nil => rfl
    | cons c rest ih =>
      obtain ⟨hc, hrest⟩ := not_or.1 (mt List.mem_cons.2 h)
      rw [lineEnds, if_neg (Ne.symm hc), ih hrest]

/-- Texts can be taken apart wherever no line end is taken apart. -/
theorem lineEnds_append (h : text.getLast? = some '\r' → more.head? ≠ some '\n') :
    lineEnds (text ++ more) = lineEnds text ++ lineEnds more := by
  induction text with
  | nil => rfl
  | cons c rest ih =>
    cases rest with
    | nil =>
      by_cases hc : c = '\r'
      · subst hc
        simp [lineEnds, h rfl]
      · simp [lineEnds, hc]
    | cons d rest =>
      have ih := ih (by simpa using h)
      have hhead : (d :: rest ++ more).head? = (d :: rest).head? := rfl
      rw [List.cons_append, lineEnds.eq_2 c, ih, hhead, lineEnds.eq_2 c]
      split
      · split <;> rfl
      · rfl

end LineEnds

/-- White space that lays a document out. -/
def space : List Char := [' ', '\t', '\n', '\r']

def Blank (text : List Char) : Prop := ∀ c ∈ text, c ∈ space

instance (text : List Char) : Decidable (Blank text) := List.decidableBAll (· ∈ space) text

theorem blank_append {text more : List Char} (h : Blank text) (hmore : Blank more) :
    Blank (text ++ more) :=
  List.forall_mem_append.2 ⟨h, hmore⟩

theorem Blank.legal {text : List Char} (h : Blank text) : Legal text := fun c hc =>
  (by decide : Legal space) c (h c hc)

def numbered? (n : Nat) : Option Char :=
  if n.isValidChar ∧ IsChar (Char.ofNat n) then some (Char.ofNat n) else none

/-- The character that a reference names, or that it has the number of. -/
def referred? : List Char → Option Char
  | ['a', 'm', 'p'] => some '&'
  | ['l', 't'] => some '<'
  | ['g', 't'] => some '>'
  | ['q', 'u', 'o', 't'] => some '"'
  | ['a', 'p', 'o', 's'] => some '\''
  | '#' :: 'x' :: digits => (Yaml.digits? 16 digits).bind numbered?
  | '#' :: digits => (Yaml.digits? 10 digits).bind numbered?
  | _ => none

/-- What a character belongs to: text, or a tag or reference that has been read so far. -/
inductive Mode where
  | text
  | tag (read : List Char)
  | reference (read : List Char)

/-- An element that is still open: the text in it, and the elements in it. -/
structure Frame where
  tag : String
  text : List Char := []
  nodes : List Node := []

/-- A reader of documents that consist of elements, texts and references. All else that XML has
(attributes, comments, instructions, sections, white space in a tag, tags of empty elements, texts
beside elements or in the root) is refused, so what is taken is well-formed. The open elements come
innermost first; the last of them stands for the whole document. -/
structure Reader where
  mode : Mode
  frames : List Frame

/-- An element has a text or elements, but not both: beside elements there is only white space. -/
def Frame.node? (f : Frame) : Option Node :=
  if f.nodes.isEmpty then some (.leaf f.tag (String.ofList f.text))
  else if Blank f.text then some (.branch f.tag f.nodes)
  else none

namespace Reader

/-- In a text, `]]>` would end a section that nothing has begun. -/
def put (c : Char) : List Frame → Option (List Frame)
  | [] => none
  | f :: outer =>
    if c = '>' ∧ [']', ']'] <:+ f.text then none
    else some ({ f with text := f.text ++ [c] } :: outer)

/-- A reference stands in an element, and not beside the root. -/
def refer (c : Char) : List Frame → Option (List Frame)
  | f :: g :: outer => some ({ f with text := f.text ++ [c] } :: g :: outer)
  | _ => none

/-- Only the innermost element can be closed, and by its name. -/
def close (tag : String) : List Frame → Option (List Frame)
  | f :: g :: outer =>
    if f.tag = tag then f.node?.map fun node => { g with nodes := g.nodes ++ [node] } :: outer
    else none
  | _ => none

/-- The end of a tag is reached. -/
def endTag (frames : List Frame) : List Char → Option (List Frame)
  | '/' :: name => close (String.ofList name) frames
  | name =>
    let tag := String.ofList name
    if IsName tag then some ({ tag } :: frames) else none

def step (r : Reader) (c : Char) : Option Reader :=
  match r.mode with
  | .text =>
    if c = '<' then some { r with mode := .tag [] }
    else if c = '&' then some { r with mode := .reference [] }
    else (put c r.frames).map (⟨.text, ·⟩)
  | .tag read =>
    if c = '>' then (endTag r.frames read).map (⟨.text, ·⟩)
    else some { r with mode := .tag (read ++ [c]) }
  | .reference read =>
    if c = ';' then ((referred? read).bind (refer · r.frames)).map (⟨.text, ·⟩)
    else some { r with mode := .reference (read ++ [c]) }

def run (r : Reader) (text : List Char) : Option Reader := text.foldlM step r

def start : Reader := ⟨.text, [{ tag := "" }]⟩

end Reader

/-- The elements in the root, which has no text of its own. -/
def Node.inside? : Node → Option (List Node)
  | .leaf _ value => if Blank value.toList then some [] else none
  | .branch _ children _ => some children

/-- The root is the one element of a document, with nothing but white space beside it. -/
def read? (text : List Char) : Option (String × List Node) := do
  let r ← Reader.start.run text
  match r with
  | ⟨.text, [⟨_, outside, [root]⟩]⟩ =>
    if Blank outside then root.inside?.map (root.tag, ·) else none
  | _ => none

/-- The name of the root of a well-formed document and the elements in it. What is read are the
lines, whatever they end with. -/
def document? (text : String) : Option (String × List Node) :=
  if Legal text.toList then read? (lineEnds text.toList) else none

/-- An element that says what it is without its layout: its names are names, its texts have only
characters that a document can have, and a branch has elements in it, since one without them is
told from a leaf by nothing. -/
inductive Node.Readable : Node → Prop
  | leaf {tag value : String} (name : IsName tag) (legal : Legal value.toList) :
    Readable (.leaf tag value)
  | branch {tag : String} {children : List Node} (name : IsName tag) (inhabited : children ≠ [])
      (readable : ∀ node ∈ children, Readable node) : Readable (.branch tag children)

section Soundness

variable {f g : Frame} {frames next outer : List Frame} {c : Char} {node : Node}
  {read text : List Char} {r last : Reader}

/-- What has been read of an element so far can become one. -/
structure Frame.Sound (f : Frame) : Prop where
  legal : Legal f.text
  readable : ∀ node ∈ f.nodes, node.Readable

/-- All elements around the innermost one are open, up to the whole document, which has no name. -/
inductive Open : List Frame → Prop
  | document {f : Frame} (sound : f.Sound) : Open [f]
  | element {f g : Frame} {outer : List Frame} (name : IsName f.tag) (sound : f.Sound)
      (around : Open (g :: outer)) : Open (f :: g :: outer)

theorem isChar_referred? (h : referred? read = some c) : IsChar c := by
  have hnumber {n : Option Nat} (h : n.bind numbered? = some c) : IsChar c := by
    obtain ⟨n, -, hn⟩ := Option.bind_eq_some_iff.1 h
    unfold numbered? at hn
    split at hn
    · next hchar => exact Option.some.inj hn ▸ hchar.2
    · cases hn
  unfold referred? at h
  split at h
  case h_6 => exact hnumber h
  case h_7 => exact hnumber h
  case h_8 => cases h
  all_goals exact Option.some.inj h ▸ by decide

theorem Frame.Sound.node? (h : f.Sound) (hname : IsName f.tag) (hnode : f.node? = some node) :
    node.Readable := by
  unfold Frame.node? at hnode
  split at hnode
  · obtain rfl := Option.some.inj hnode
    exact .leaf hname (by rw [String.toList_ofList]; exact h.legal)
  · next hne =>
    split at hnode
    · obtain rfl := Option.some.inj hnode
      exact .branch hname (mt List.isEmpty_iff.2 hne) h.readable
    · cases hnode

theorem Open.sound (h : Open (f :: outer)) : f.Sound := by
  cases h <;> assumption

/-- Of the innermost element, only the text and what is in it changes. -/
theorem Open.change (h : Open (f :: outer)) (htag : g.tag = f.tag) (hg : g.Sound) :
    Open (g :: outer) := by
  cases h with
  | document => exact .document hg
  | element name _ around => exact .element (htag ▸ name) hg around

theorem Open.write (h : Open (f :: outer)) (hc : IsChar c) :
    Open ({ f with text := f.text ++ [c] } :: outer) :=
  h.change rfl ⟨h.sound.legal.append (List.forall_mem_singleton.2 hc), h.sound.readable⟩

theorem Open.put (h : Open frames) (hc : IsChar c) (hput : Reader.put c frames = some next) :
    Open next := by
  unfold Reader.put at hput
  split at hput
  · cases hput
  · split at hput
    · cases hput
    · exact Option.some.inj hput ▸ h.write hc

theorem Open.refer (h : Open frames) (hc : IsChar c)
    (hrefer : Reader.refer c frames = some next) : Open next := by
  unfold Reader.refer at hrefer
  split at hrefer
  · exact Option.some.inj hrefer ▸ h.write hc
  · cases hrefer

theorem Open.close {tag : String} (h : Open frames) (hclose : Reader.close tag frames = some next) :
    Open next := by
  unfold Reader.close at hclose
  split at hclose
  · split at hclose
    · obtain ⟨node, hnode, rfl⟩ := Option.map_eq_some_iff.1 hclose
      cases h with
      | element name sound around =>
        obtain ⟨legal, readable⟩ := around.sound
        exact around.change rfl ⟨legal, List.forall_mem_append.2
          ⟨readable, List.forall_mem_singleton.2 (sound.node? name hnode)⟩⟩
    · cases hclose
  · cases hclose

theorem Open.endTag (h : Open frames) (hend : Reader.endTag frames read = some next) :
    Open next := by
  unfold Reader.endTag at hend
  split at hend
  · exact h.close hend
  · simp only at hend
    split at hend
    · next hname =>
      obtain rfl := Option.some.inj hend
      cases frames with
      | nil => nomatch h
      | cons f outer => exact .element hname ⟨nofun, nofun⟩ h
    · cases hend

theorem Open.step (h : Open r.frames) (hc : IsChar c) (hstep : r.step c = some last) :
    Open last.frames := by
  have hnext {next? : Option (List Frame)} (hopen : ∀ frames, next? = some frames → Open frames)
      (hmap : next?.map (⟨.text, ·⟩) = some last) : Open last.frames := by
    obtain ⟨frames, hframes, rfl⟩ := Option.map_eq_some_iff.1 hmap
    exact hopen frames hframes
  unfold Reader.step at hstep
  split at hstep
  · split at hstep
    · exact Option.some.inj hstep ▸ h
    · split at hstep
      · exact Option.some.inj hstep ▸ h
      · exact hnext (fun _ hput => h.put hc hput) hstep
  · split at hstep
    · exact hnext (fun _ hend => h.endTag hend) hstep
    · exact Option.some.inj hstep ▸ h
  · split at hstep
    · refine hnext (fun _ hbind => ?_) hstep
      obtain ⟨named, hnamed, hrefer⟩ := Option.bind_eq_some_iff.1 hbind
      exact h.refer (isChar_referred? hnamed) hrefer
    · exact Option.some.inj hstep ▸ h

theorem Open.run (h : Open r.frames) (htext : Legal text) (hrun : r.run text = some last) :
    Open last.frames := by
  induction text generalizing r with
  | nil => exact Option.some.inj hrun ▸ h
  | cons c rest ih =>
    obtain ⟨hc, hrest⟩ := List.forall_mem_cons.1 htext
    obtain ⟨next, hnext, hrun⟩ := Option.bind_eq_some_iff.1 hrun
    exact ih (h.step hc hnext) hrest hrun

theorem Node.Readable.inside {nodes : List Node} (h : node.Readable)
    (hinside : node.inside? = some nodes) : ∀ node ∈ nodes, node.Readable := by
  cases h with
  | leaf =>
    rw [Node.inside?] at hinside
    split at hinside
    · exact Option.some.inj hinside ▸ nofun
    · cases hinside
  | branch _ _ readable => exact Option.some.inj hinside ▸ readable

/-- Whatever is read has names for names, and only characters that a document can have. -/
theorem document?_sound {text tag : String} {nodes : List Node}
    (h : document? text = some (tag, nodes)) : ∀ node ∈ nodes, node.Readable := by
  unfold document? at h
  split at h
  · next hlegal =>
    obtain ⟨last, hrun, hlast⟩ := Option.bind_eq_some_iff.1 h
    have hopen : Open last.frames :=
      Open.run (.document ⟨nofun, nofun⟩ : Open Reader.start.frames) hlegal.lineEnds hrun
    split at hlast
    · split at hlast
      · obtain ⟨inside, hinside, heq⟩ := Option.map_eq_some_iff.1 hlast
        obtain ⟨-, rfl⟩ := Prod.mk.inj heq
        cases hopen with
        | document sound => exact (sound.readable _ (List.mem_singleton_self _)).inside hinside
      · cases hlast
    · cases hlast
  · cases h

end Soundness

end ShardOperator.Xml
