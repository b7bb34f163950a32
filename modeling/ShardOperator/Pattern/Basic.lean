namespace ShardOperator

namespace Pattern

/-- A character as a pattern writes it: as itself, or as a byte in two hexadecimal digits. -/
structure Letter where
  char : Char
  isByte : Bool := false
  deriving DecidableEq

def Letter.isAscii (l : Letter) : Bool := l.char.toNat < 0x80

/-- A set of characters. -/
inductive CharSet where
  | nothing
  | letter (l : Letter)
  | range (first last : Letter)
  /-- A class that has a name, such as the digits, or all characters that are not of the class. -/
  | named (negated : Bool)
  /-- The characters of a Unicode category, which one letter names. -/
  | category (name : Char)
  | union (items : List CharSet)
  /-- What two sets have in common, or what tells them apart. -/
  | combined (left right : CharSet)
  | brackets (negated : Bool) (content : CharSet)

namespace CharSet

def ofItems : List CharSet → CharSet
  | [] => nothing
  | [item] => item
  | items => union items

mutual

/-- How deep brackets, unions and combinations stand inside each other. -/
def depth : CharSet → Nat
  | nothing | letter _ | range .. | named _ | category _ => 0
  | union items => depths items + 1
  | combined left right => max left.depth right.depth + 1
  | brackets _ content => content.depth + 1

def depths : List CharSet → Nat
  | [] => 0
  | item :: rest => max item.depth (depths rest)

end

/-- The categories that have a name of one letter. -/
def categories : List Char := ['c', 'l', 'm', 'n', 'p', 's', 'z']

mutual

/-- A set of bytes may hold only bytes that are characters by themselves, so that it can neither be
a complement nor be taken from Unicode. -/
def isSound (unicode : Bool) : CharSet → Bool
  | nothing => true
  | letter l => unicode || l.isAscii
  | range first last => unicode || (first.isAscii && last.isAscii)
  | named negated => unicode || !negated
  | category name => unicode && categories.contains name.toLower
  | union items => areSound unicode items
  | combined left right => left.isSound unicode && right.isSound unicode
  | brackets negated content => (unicode || !negated) && content.isSound unicode

def areSound (unicode : Bool) : List CharSet → Bool
  | [] => true
  | item :: rest => item.isSound unicode && areSound unicode rest

end

end CharSet

/-- What a pattern says about how the rest of its group is read: whether blanks count for nothing,
and whether it is about characters and not about bytes. -/
structure Flags where
  spaced : Option Bool := none
  unicode : Option Bool := none

end Pattern

/-- A regular expression. -/
inductive Pattern where
  | empty
  | letter (l : Pattern.Letter)
  | any
  /-- A place in the text, perhaps one that only the characters around it tell. -/
  | place (ofWords : Bool)
  | set (content : Pattern.CharSet)
  | flags (f : Pattern.Flags)
  | repeated (p : Pattern)
  | group (f : Pattern.Flags) (p : Pattern)
  | sequence (parts : List Pattern)
  | choice (branches : List Pattern)

namespace Pattern

def ofParts : List Pattern → Pattern
  | [] => empty
  | [part] => part
  | parts => sequence parts

def ofBranches : List Pattern → Pattern
  | [] => empty
  | [branch] => branch
  | branches => choice branches

mutual

/-- How deep the parts stand inside each other. -/
def depth : Pattern → Nat
  | empty | letter _ | any | place _ | flags _ => 0
  | set content => content.depth
  | repeated p | group _ p => p.depth + 1
  | sequence parts | choice parts => depths parts + 1

def depths : List Pattern → Nat
  | [] => 0
  | part :: rest => max part.depth (depths rest)

end

mutual

/-- Whether a pattern comes to characters, and comes down to steps from one byte to the next; and
if so, whether the part behind it is about characters. A place that only words tell cannot be found
byte by byte, unless words are made of ASCII letters. -/
def after? (unicode : Bool) : Pattern → Option Bool
  | empty => some unicode
  | letter l => if unicode || !l.isByte || l.isAscii then some unicode else none
  | any => if unicode then some unicode else none
  | place ofWords => if ofWords && unicode then none else some unicode
  | set content => if content.isSound unicode then some unicode else none
  | flags f => some (f.unicode.getD unicode)
  | repeated p => p.after? unicode
  | group f p => (p.after? (f.unicode.getD unicode)).map fun _ => unicode
  | sequence parts | choice parts => afterAll? unicode parts

def afterAll? (unicode : Bool) : List Pattern → Option Bool
  | [] => some unicode
  | part :: rest => (part.after? unicode).bind (afterAll? · rest)

end

/-- How deep the parts of a pattern may stand inside each other. -/
def maxDepth : Nat := 250

def isUsable (p : Pattern) : Bool := p.depth ≤ maxDepth && (p.after? true).isSome

end Pattern

end ShardOperator
