import XmlAudit.Xml.Name

/-!
# Element trees

* `Tree`: an element with its children, or a piece of text, each with its source line.
* `Tree.size`: how many nodes a tree has.
-/

namespace XmlAudit.Xml

/-- An attribute with the namespace that its name belongs to. -/
structure Attribute where
  name : QName
  uri : Option String
  value : String
deriving DecidableEq, Repr, Inhabited

/-- A namespace declaration: the qualifier that it binds, none for the default, and the namespace.
-/
abbrev Declaration := Option String × String

/-- An element without its children: `declarations` are those made on it, in source order. -/
structure Element where
  name : QName
  uri : Option String
  attributes : List Attribute
  declarations : List Declaration
deriving DecidableEq, Repr, Inhabited

/-- Elements and text; an element has the line on which its start tag ends. -/
inductive Tree where
  | text (line : Nat) (content : String)
  | element (line : Nat) (element : Element) (children : List Tree)

mutual

/-- The number of nodes of a tree. -/
def Tree.size : Tree → Nat
  | .text _ _ => 1
  | .element _ _ children => 1 + sizes children

/-- The number of nodes of several trees. -/
def sizes : List Tree → Nat
  | [] => 0
  | t :: ts => t.size + sizes ts

end

end XmlAudit.Xml
