import XmlAudit.Xml.Namespaces
import XmlAudit.XPath.Syntax

/-!
# The nodes of path expressions

* `Node`: a node of a document, or an attribute of one.
* `Node.before`: document order, in which attributes follow their element and precede its children.
* `inOrder`: a list of nodes sorted into document order, each once.
* `Node.along`: the nodes along an axis, the nearest first.
* `Node.satisfies`: the node test.
-/

namespace XmlAudit.XPath

open Xml (Document NodeId Namespaces)

/-- A node of the tree, or the attribute of an element at an index. -/
inductive Node where
  | tree (id : NodeId)
  | attr (owner : NodeId) (index : Nat)
deriving DecidableEq, Repr, Inhabited

namespace Node

/-- The node itself, or the element that has the attribute. -/
def owner : Node → NodeId
  | tree id => id
  | attr owner _ => owner

/-- The place of a node among those with the same owner. -/
def rank : Node → Nat
  | tree _ => 0
  | attr _ index => index + 1

/-- Document order. -/
def le (a b : Node) : Bool := a.owner < b.owner || (a.owner = b.owner && a.rank ≤ b.rank)

variable (d : Document) (n : Node)

/-- The attribute that a node is. -/
def attribute? : Option Xml.Attribute :=
  match n with
  | tree _ => none
  | attr owner index => (d.element? owner).bind (·.attributes[index]?)

/-- The name, which documents and text do not have. -/
def name? : Option Xml.QName :=
  match n with
  | tree id => (d.element? id).map (·.name)
  | attr _ _ => (n.attribute? d).map (·.name)

/-- The namespace of the name. -/
def uri? : Option String :=
  match n with
  | tree id => (d.element? id).bind (·.uri)
  | attr _ _ => (n.attribute? d).bind (·.uri)

/-- The text inside a node, or the value of an attribute. -/
def stringValue : String :=
  match n with
  | tree id => d.stringValue id
  | attr _ _ => ((n.attribute? d).map (·.value)).getD ""

/-- The source line of the owner. -/
def line : Nat := d.line n.owner

/-- Whether a node exists in a document. -/
def IsIn : Prop :=
  match n with
  | tree id => id < d.size
  | attr _ _ => (n.attribute? d).isSome

/-- The nodes along an axis from a node of the tree, the nearest first. -/
def alongFromTree (id : NodeId) : Axis → List Node
  | .child => (d.children id).map tree
  | .descendant => (d.descendants id).map tree
  | .descendantOrSelf => tree id :: (d.descendants id).map tree
  | .parent => (d.parent? id).toList.map tree
  | .ancestor => (d.ancestors id).map tree
  | .ancestorOrSelf => tree id :: (d.ancestors id).map tree
  | .followingSibling =>
    match d.parent? id with
    | some p => (((d.children p).dropWhile (· ≠ id)).drop 1).map tree
    | none => []
  | .precedingSibling =>
    match d.parent? id with
    | some p => if (d.children p).contains id
        then ((d.children p).takeWhile (· ≠ id)).reverse.map tree else []
    | none => []
  | .following => (d.following id).map tree
  | .preceding => (d.preceding id).reverse.map tree
  | .attributes =>
    match d.element? id with
    | some e => (List.range e.attributes.length).map (attr id)
    | none => []
  | .self => [tree id]

/-- The nodes along an axis from an attribute, which has no children and no siblings and precedes
the children of its element. -/
def alongFromAttribute (owner : NodeId) (index : Nat) : Axis → List Node
  | .self | .descendantOrSelf => [attr owner index]
  | .parent => [tree owner]
  | .ancestor => tree owner :: (d.ancestors owner).map tree
  | .ancestorOrSelf => attr owner index :: tree owner :: (d.ancestors owner).map tree
  | .following => (d.descendants owner).map tree ++ (d.following owner).map tree
  | .preceding => (d.preceding owner).reverse.map tree
  | _ => []

/-- The nodes along an axis, the nearest first. -/
def along (axis : Axis) : List Node :=
  match n with
  | tree id => alongFromTree d id axis
  | attr owner index => alongFromAttribute d owner index axis

end Node

/-- A sorted list without its repetitions. -/
def dropRepeats : List Node → List Node
  | [] => []
  | [n] => [n]
  | a :: b :: rest => if a = b then dropRepeats (b :: rest) else a :: dropRepeats (b :: rest)

/-- Nodes in document order, each once. -/
def inOrder (nodes : List Node) : List Node := dropRepeats (nodes.mergeSort Node.le)

/-- What can go wrong while an expression is evaluated. -/
inductive EvalFault where
  /-- Something other than nodes where nodes are needed. -/
  | nodesNeeded (user : String)
  | unboundVariable (name : String)
  | undeclaredPrefix (qualifier : String)
  | invalidRegex
  | missingArgument (function : String)
deriving DecidableEq, Repr

/-- How an evaluation fault is worded. -/
def EvalFault.message : EvalFault → String
  | nodesNeeded user => user ++ " requires a node-set operand"
  | unboundVariable name => "variable `$" ++ name ++ "` is not bound"
  | undeclaredPrefix q => "namespace prefix `" ++ q ++ "` is not declared"
  | invalidRegex => "invalid regular expression: the pattern cannot be read"
  | missingArgument f => "function `" ++ f ++ "()` lacks an argument"

/-- The namespace of a qualifier in an expression, of which `xml` is always declared. -/
def resolveQualifier (ns : Namespaces) (qualifier : String) : Except EvalFault String :=
  if qualifier = "xml" then .ok Xml.xmlNamespace
  else
    match ns.uri? (some qualifier) with
    | some uri => .ok uri
    | none => .error (.undeclaredPrefix qualifier)

/-- Whether a name in a namespace satisfies a name test. -/
def NameTest.accepts (ns : Namespaces) (localPart : String) (uri : Option String) :
    NameTest → Except EvalFault Bool
  | any => .ok true
  | anywhere l => .ok (l = localPart)
  | anyIn q => (resolveQualifier ns q).map fun u => uri = some u
  | name none l => .ok (l = localPart && uri.isNone)
  | name (some q) l => (resolveQualifier ns q).map fun u => l = localPart && uri = some u

/-- Whether a node found along an axis satisfies a node test. Names are those of attributes on the
attribute axis and of elements on all others. -/
def Node.satisfies (d : Document) (ns : Namespaces) (axis : Axis) (test : NodeTest) (n : Node) :
    Except EvalFault Bool :=
  match n with
  | .attr _ _ =>
    match n.attribute? d with
    | none => .ok false
    | some a =>
      match test with
      | .node => .ok true
      | .text => .ok false
      | .named t => if axis = .attributes then t.accepts ns a.name.localPart a.uri else .ok false
  | .tree id =>
    match test with
    | .node => .ok true
    | .text => .ok (d.text? id).isSome
    | .named t =>
      match d.element? id with
      | some e => if axis = .attributes then .ok false else t.accepts ns e.name.localPart e.uri
      | none => .ok false

end XmlAudit.XPath
