import XmlAudit.Xml.Tree

/-!
# Documents

The nodes of a document are numbered in document order, 0 being the document itself. Each knows its
parent, its children and the last node of its subtree.

* `Document.ofTree`: the document of an element tree.
* `descendants`, `following`, `preceding`, `ancestors`: the nodes around a node.
* `stringValue`: the text of a node.
-/

namespace XmlAudit.Xml

/-- The number of a node in document order. -/
abbrev NodeId := Nat

/-- What a node is. -/
inductive NodeKind where
  | document
  | element (element : Element)
  | text (content : String)
deriving DecidableEq, Repr, Inhabited

/-- A node and its neighbours: `last` is the last node of its subtree, `line` its source line, 0 for
the document. -/
structure Node where
  kind : NodeKind
  parent : Option NodeId
  children : List NodeId
  line : Nat
  last : NodeId
deriving DecidableEq, Repr, Inhabited

/-- The numbers of sibling trees of which the first has number `start`. -/
def siblingIds (start : NodeId) : List Tree → List NodeId
  | [] => []
  | t :: ts => start :: siblingIds (start + t.size) ts

mutual

/-- The nodes of a tree whose root has number `start`. -/
def Tree.nodes (parent start : NodeId) : Tree → List Node
  | .text line content => [⟨.text content, some parent, [], line, start⟩]
  | .element line element children =>
    ⟨.element element, some parent, siblingIds (start + 1) children, line,
      start + sizes children⟩ :: forestNodes start (start + 1) children

/-- The nodes of sibling trees of which the first has number `start`. -/
def forestNodes (parent start : NodeId) : List Tree → List Node
  | [] => []
  | t :: ts => t.nodes parent start ++ forestNodes parent (start + t.size) ts

end

/-- The nodes of a document in document order. -/
structure Document where
  nodes : Array Node
deriving Repr, Inhabited

namespace Document

/-- The number of the document node. -/
def root : NodeId := 0

/-- The number of the document element. -/
def documentElement : NodeId := 1

/-- The document of which a tree is the document element. -/
def ofTree (tree : Tree) : Document :=
  ⟨(⟨.document, none, [documentElement], 0, tree.size⟩ :: tree.nodes root documentElement).toArray⟩

variable (d : Document) (id : NodeId)

/-- The number of nodes. -/
def size : Nat := d.nodes.size

/-- The node of a number. -/
def node? : Option Node := d.nodes[id]?

/-- The element of a number, if it is one. -/
def element? : Option Element :=
  match d.node? id with
  | some ⟨.element e, _, _, _, _⟩ => some e
  | _ => none

/-- The text of a text node. -/
def text? : Option String :=
  match d.node? id with
  | some ⟨.text s, _, _, _, _⟩ => some s
  | _ => none

/-- Whether a number is that of an element. -/
def isElement : Bool := (d.element? id).isSome

/-- The parent, of which the document node has none. -/
def parent? : Option NodeId := (d.node? id).bind (·.parent)

/-- The children in document order. -/
def children : List NodeId := ((d.node? id).map (·.children)).getD []

/-- The source line. -/
def line : Nat := ((d.node? id).map (·.line)).getD 0

/-- The last node of the subtree of a node. -/
def last : NodeId := ((d.node? id).map (·.last)).getD id

/-- The numbers from `first` on and below `stop`. -/
def idsBetween (first stop : NodeId) : List NodeId := List.range' first (stop - first)

/-- The nodes strictly inside the subtree of a node, in document order. -/
def descendants : List NodeId := idsBetween (id + 1) (d.last id + 1)

/-- The nodes after the subtree of a node, in document order. -/
def following : List NodeId := idsBetween (d.last id + 1) d.size

/-- The parents from `id` on; at most `fuel` of them, a parent having a smaller number. -/
def ancestorsWithin : Nat → NodeId → List NodeId
  | 0, _ => []
  | fuel + 1, id =>
    match d.parent? id with
    | some p => p :: ancestorsWithin fuel p
    | none => []

/-- The parent, its parent and so on up to the document node. -/
def ancestors : List NodeId := d.ancestorsWithin id id

/-- The nodes before a node that are not its ancestors, in document order. -/
def preceding : List NodeId :=
  (idsBetween 1 id).filter fun n => !(d.ancestors id).contains n

/-- The text of a node: its own, or that of all text inside it. -/
def stringValue : String :=
  match d.text? id with
  | some s => s
  | none => String.join ((d.descendants id).filterMap d.text?)

end Document

end XmlAudit.Xml
