import ShardOperator.Yaml.Basic
import ShardOperator.Yaml.Lexer

namespace ShardOperator.Yaml

/-- The names that have been marked, with their numbers. -/
abbrev Marks := List (String × Nat)

/-- A new name takes the number of names before it. A name that is marked again takes the number of
all names. -/
def Marks.add (marks : Marks) (name : String) : Nat × Marks :=
  (marks.length, (name, marks.length) :: marks.filter (·.1 ≠ name))

/-- What a reader of nodes passes on: the tokens that follow, and the marks before them. -/
structure Rest where
  tokens : List Token
  marks : Marks := []
  /-- What tag handles stand for. -/
  handles : List (String × String)

def Rest.drop (r : Rest) : Rest := { r with tokens := r.tokens.drop 1 }

/-- The next token is one of these. -/
def Rest.sees (r : Rest) (tokens : List Token) : Bool := r.tokens.head?.any tokens.contains

def Rest.fullTag? (r : Rest) (handle suffix : String) : Option String :=
  if handle = "" then some suffix else (r.handles.lookup handle).map (· ++ suffix)

/-- What may stand before a node: a name for it and a tag, in any order. -/
structure Properties where
  name : Option String := none
  tag : Option String := none

def properties? (r : Rest) : Option (Properties × Rest) :=
  match r.tokens with
  | .anchor name :: .tag handle suffix :: _ | .tag handle suffix :: .anchor name :: _ => do
    some (⟨name, ← r.fullTag? handle suffix⟩, r.drop.drop)
  | .anchor name :: _ => some (⟨name, none⟩, r.drop)
  | .tag handle suffix :: _ => do some (⟨none, ← r.fullTag? handle suffix⟩, r.drop)
  | _ => some ({}, r)

def Properties.isEmpty (p : Properties) : Bool := p.name.isNone && p.tag.isNone

/-- Notes the name that a node has, if it has one. -/
def Properties.mark (p : Properties) (r : Rest) : (Yaml → Yaml) × Rest :=
  match p.name with
  | none => (id, r)
  | some name =>
    let (number, marks) := r.marks.add name
    (Yaml.marked number, { r with marks })

mutual

/-- The node that the tokens start with. Blocks start only where `block` says so, and a list that
has no column of its own only where `bare` says so. A node that has a name or a tag may be empty. -/
def node? : Nat → (block bare : Bool) → Rest → Option (Yaml × Rest)
  | 0, _, _, _ => none
  | steps + 1, block, bare, r =>
    match r.tokens with
    | .alias name :: _ => (r.marks.lookup name).map (.alias ·, r.drop)
    | _ => do
      let (p, r) ← properties? r
      let (mark, after) := p.mark r
      let read (nodes : Option (Yaml × Rest)) : Option (Yaml × Rest) :=
        nodes.map fun n => (mark n.1, n.2)
      let nothing? : Option (Yaml × Rest) :=
        if p.isEmpty then none else some (mark (.scalar .plain p.tag ""), after)
      match r.tokens with
      | .scalar style text :: _ => some (mark (.scalar style p.tag text), after.drop)
      | .listStart :: _ => read (items? steps true after.drop)
      | .mapStart :: _ => read (entries? steps true after.drop)
      | .item :: _ => if bare then read (bareItems? steps after) else nothing?
      | .blockListStart :: _ => if block then read (blockItems? steps after.drop) else nothing?
      | .blockMapStart :: _ => if block then read (blockEntries? steps after.drop) else nothing?
      | _ => nothing?

/-- A node, or nothing where one of these tokens follows. -/
def nodeUnless? : Nat → List Token → (block bare : Bool) → Rest → Option (Yaml × Rest)
  | 0, _, _, _, _ => none
  | steps + 1, ends, block, bare, r =>
    if r.sees ends then some (empty, r) else node? steps block bare r

/-- The items of a block up to its end. -/
def blockItems? : Nat → Rest → Option (Yaml × Rest)
  | 0, _ => none
  | steps + 1, r => do
    let (items, r) ← itemsWhile? steps [.item, .blockEnd] r
    if r.sees [.blockEnd] then some (.list items, r.drop) else none

/-- The items of a list that ends with the entry that it stands in. -/
def bareItems? : Nat → Rest → Option (Yaml × Rest)
  | 0, _ => none
  | steps + 1, r => do
    let (items, r) ← itemsWhile? steps [.item, .key, .value, .blockEnd] r
    some (.list items, r)

/-- As many items as there are; an item may be empty before one of these tokens. -/
def itemsWhile? : Nat → List Token → Rest → Option (List Yaml × Rest)
  | 0, _, _ => none
  | steps + 1, ends, r =>
    if r.sees [.item] then do
      let (item, r) ← nodeUnless? steps ends true false r.drop
      let (more, r) ← itemsWhile? steps ends r
      some (item :: more, r)
    else some ([], r)

/-- The entries of a block up to its end. Keys and values may be left out. -/
def blockEntries? : Nat → Rest → Option (Yaml × Rest)
  | 0, _ => none
  | steps + 1, r => do
    let (entries, r) ← entriesWhile? steps r
    if r.sees [.blockEnd] then some (.map entries, r.drop) else none

def entriesWhile? : Nat → Rest → Option (List (Yaml × Yaml) × Rest)
  | 0, _ => none
  | steps + 1, r =>
    if r.sees [.key] then do
      let ends : List Token := [.key, .value, .blockEnd]
      let (key, r) ← nodeUnless? steps ends true true r.drop
      let (value, r) ←
        if r.sees [.value] then nodeUnless? steps ends true true r.drop else some (empty, r)
      let (more, r) ← entriesWhile? steps r
      some ((key, value) :: more, r)
    else some ([], r)

/-- The items between brackets, with commas between them and perhaps one behind them. An item may be
a mapping with one entry. -/
def items? : Nat → (first : Bool) → Rest → Option (Yaml × Rest)
  | 0, _, _ => none
  | steps + 1, first, r =>
    if r.sees [.listEnd] then some (.list [], r.drop)
    else do
      let r ← if first then some r else if r.sees [.comma] then some r.drop else none
      if r.sees [.listEnd] then some (.list [], r.drop)
      else
        let (item, r) ← if r.sees [.key] then pair? steps r.drop else node? steps false false r
        let (more, r) ← items? steps false r
        match more with
        | .list more => some (.list (item :: more), r)
        | _ => none

/-- An entry that is an item of a list. What follows a key that is left out goes with it. -/
def pair? : Nat → Rest → Option (Yaml × Rest)
  | 0, _ => none
  | steps + 1, r => do
    let (key, r) ←
      if r.sees [.value, .comma, .listEnd] then some (empty, r.drop)
      else node? steps false false r
    let (value, r) ←
      if r.sees [.value] then nodeUnless? steps [.comma, .listEnd] false false r.drop
      else some (empty, r)
    some (.map [(key, value)], r)

/-- The entries between braces, with commas between them and perhaps one behind them. A key that is
not marked as one has no value. -/
def entries? : Nat → (first : Bool) → Rest → Option (Yaml × Rest)
  | 0, _, _ => none
  | steps + 1, first, r =>
    if r.sees [.mapEnd] then some (.map [], r.drop)
    else do
      let r ← if first then some r else if r.sees [.comma] then some r.drop else none
      if r.sees [.mapEnd] then some (.map [], r.drop)
      else
        let (entry, r) ← if r.sees [.key] then do
            let (key, r) ← nodeUnless? steps [.value, .comma, .mapEnd] false false r.drop
            let (value, r) ←
              if r.sees [.value] then nodeUnless? steps [.comma, .mapEnd] false false r.drop
              else some (empty, r)
            some ((key, value), r)
          else do
            let (key, r) ← node? steps false false r
            some ((key, empty), r)
        let (more, r) ← entries? steps false r
        match more with
        | .map more => some (.map (entry :: more), r)
        | _ => none

end

/-- What a document says of itself; it may give one version and each handle once. -/
def directives? : List Token → Option (Bool × List (String × String) × List Token)
  | .version major minor :: rest => do
    let (versioned, handles, rest) ← directives? rest
    if !versioned && major = 1 && (minor = 1 || minor = 2) then some (true, handles, rest) else none
  | .tagHandle handle lead :: rest => do
    let (versioned, handles, rest) ← directives? rest
    if (handles.lookup handle).isNone then some (versioned, (handle, lead) :: handles, rest)
    else none
  | rest => some (false, [], rest)

/-- The handles that every document knows. -/
def commonHandles : List (String × String) := [("!", "!"), ("!!", typeTag "")]

/-- The node of a document after the mark of its start; it may be missing. -/
def content? (steps : Nat) (r : Rest) : Option (Yaml × Rest) :=
  match r.tokens with
  | [] | .version .. :: _ | .tagHandle .. :: _ | .documentStart :: _ | .documentEnd :: _ =>
    some (empty, r)
  | _ => node? steps true false r

/-- The first document. Only one that says something of itself needs the mark of its start. -/
def document? (tokens : List Token) : Option (Yaml × Rest) := do
  let steps := 8 * tokens.length + 8
  let (versioned, handles, rest) ← directives? tokens
  let isBare := !versioned && handles.isEmpty
  let handles := handles ++ commonHandles
  match rest with
  | .documentStart :: rest => content? steps { tokens := rest, handles }
  | [] => if isBare then some (empty, { tokens := [], handles }) else none
  | rest => if isBare then node? steps true false { tokens := rest, handles } else none

/-- The one node of a text with one document. -/
def parse? (text : String) : Option Yaml := do
  let (node, r) ← document? (← tokens? text)
  if r.tokens.all (· = .documentEnd) then some node else none

end ShardOperator.Yaml
