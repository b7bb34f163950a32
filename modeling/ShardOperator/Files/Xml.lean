import ShardOperator.Files.SettingTree

namespace ShardOperator

namespace Xml

def escapeChar (c : Char) : List Char :=
  match c with
  | '&' => "&amp;".toList
  | '<' => "&lt;".toList
  | '>' => "&gt;".toList
  | '"' => "&quot;".toList
  | '\'' => "&apos;".toList
  | c => [c]

/-- The characters that mean something in markup are named. -/
def escape (s : String) : String := String.ofList (s.toList.flatMap escapeChar)

/-- The element around every generated file. -/
def rootTag : String := "yandex"

end Xml

/-- A document that is being written: its text so far, and the number of open elements. -/
structure XmlWriter where
  text : String := ""
  depth : Nat := 0

namespace XmlWriter

def line (w : XmlWriter) (content : String) : XmlWriter :=
  { w with text := w.text ++ String.ofList (List.replicate (4 * w.depth) ' ') ++ content ++ "\n" }

/-- One level deeper after the opening tag. -/
def openTag (w : XmlWriter) (tag : String) : XmlWriter :=
  let w := w.line ("<" ++ tag ++ ">")
  { w with depth := w.depth + 1 }

def openTagWith (w : XmlWriter) (tag attr value : String) : XmlWriter :=
  let w := w.line ("<" ++ tag ++ " " ++ attr ++ "=\"" ++ Xml.escape value ++ "\">")
  { w with depth := w.depth + 1 }

/-- One level up before the closing tag, or none at the outermost level. -/
def closeTag (w : XmlWriter) (tag : String) : XmlWriter :=
  { w with depth := w.depth - 1 }.line ("</" ++ tag ++ ">")

def element (w : XmlWriter) (tag value : String) : XmlWriter :=
  w.line ("<" ++ tag ++ ">" ++ Xml.escape value ++ "</" ++ tag ++ ">")

mutual

/-- A value without children is written as one element, or as one for each item of a list. Where a
path goes on below, only what is below is written. -/
def tree (w : XmlWriter) (tag : String) : SettingTree → XmlWriter
  | .node (some setting) [] => setting.values.foldl (·.element tag ·) w
  | .node _ children => ((w.openTag tag).trees children).closeTag tag

def trees (w : XmlWriter) : List (String × SettingTree) → XmlWriter
  | [] => w
  | (tag, child) :: rest => (w.tree tag child).trees rest

end

/-- Settings as nested elements, one level for each segment of a path. -/
def settings (w : XmlWriter) (s : Settings) : XmlWriter :=
  w.trees (SettingTree.ofSettings s).children

/-- A document with its root element open. -/
def document : XmlWriter := XmlWriter.openTag {} Xml.rootTag

/-- Closes the root element. -/
def finish (w : XmlWriter) : String := ({ w with depth := 1 }.closeTag Xml.rootTag).text

end XmlWriter

end ShardOperator
