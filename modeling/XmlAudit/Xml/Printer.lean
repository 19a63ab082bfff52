/-!
# Writing XML

* `Markup`: elements that hold either text or other elements.
* `Markup.render`: the elements on lines of their own, indented by two spaces.
* `escape`: a text with its markup characters replaced by references.
-/

namespace XmlAudit.Xml

/-- An element to be written: with text, or with elements. -/
inductive Markup where
  | leaf (name : String) (attributes : List (String × String)) (content : String)
  | group (name : String) (attributes : List (String × String)) (children : List Markup)

/-- A character of a text or an attribute value, as a reference if it could be markup. -/
def escapeChar (c : Char) : List Char :=
  match c with
  | '<' => "&lt;".toList
  | '>' => "&gt;".toList
  | '&' => "&amp;".toList
  | '\'' => "&apos;".toList
  | '"' => "&quot;".toList
  | c => [c]

/-- A text as it is written. -/
def escape (s : String) : List Char := s.toList.flatMap escapeChar

/-- A start tag. -/
def startTag (name : String) (attributes : List (String × String)) : List Char :=
  '<' :: name.toList ++
    attributes.flatMap (fun a => ' ' :: a.1.toList ++ '=' :: '"' :: escape a.2 ++ ['"']) ++ ['>']

/-- An end tag. -/
def endTag (name : String) : List Char := '<' :: '/' :: name.toList ++ ['>']

/-- A line break with the spaces of a depth. -/
def lineBreak (depth : Nat) : List Char := '\n' :: List.replicate (2 * depth) ' '

mutual

/-- An element on lines of its own, at a depth. -/
def Markup.renderAt (depth : Nat) : Markup → List Char
  | .leaf name attributes content =>
    lineBreak depth ++ startTag name attributes ++ escape content ++ endTag name
  | .group name attributes children =>
    lineBreak depth ++ startTag name attributes ++ renderAll (depth + 1) children ++
      lineBreak depth ++ endTag name

/-- Elements one after the other. -/
def renderAll (depth : Nat) : List Markup → List Char
  | [] => []
  | m :: ms => m.renderAt depth ++ renderAll depth ms

end

/-- The declaration with which a document starts. -/
def declaration : String := "<?xml version=\"1.0\" encoding=\"UTF-8\"?>"

/-- A document with an element. -/
def Markup.render (m : Markup) : String := declaration ++ String.ofList (m.renderAt 0)

end XmlAudit.Xml
