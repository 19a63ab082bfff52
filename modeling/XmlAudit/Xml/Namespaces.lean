import XmlAudit.Xml.Document

/-!
# Namespace tables

* `Namespaces.declare`: a prefix bound to a namespace, and the namespace to the prefix.
* `Namespaces.uri?`, `Namespaces.boundPrefix?`: the latest binding of a prefix and of a namespace.
* `Namespaces.ofDocument`: the declarations of a document element, or of all elements.

The default namespace of a document is bound to a prefix of its own, `default`.
-/

namespace XmlAudit.Xml

/-- The bindings of prefixes to namespaces and back, the latest first. -/
structure Namespaces where
  uris : List (String × String)
  prefixes : List (String × String)

namespace Namespaces

/-- The prefix that stands for the default namespace. -/
def defaultPrefix : String := "default"

/-- The table without bindings. -/
def empty : Namespaces := ⟨[], []⟩

/-- A prefix bound to a namespace, over what either was bound to before. -/
def declare (n : Namespaces) (binding : String × String) : Namespaces :=
  ⟨binding :: n.uris, (binding.2, binding.1) :: n.prefixes⟩

/-- The table of a list of declarations. -/
def ofList (bindings : List (String × String)) : Namespaces := bindings.foldl declare empty

/-- The default namespace. -/
def default? (n : Namespaces) : Option String := n.uris.lookup defaultPrefix

/-- The namespace of a prefix; without one, or with an empty one, the default namespace. -/
def uri? (n : Namespaces) (pre : Option String) : Option String :=
  match pre with
  | none => n.default?
  | some p => if p = "" then n.default? else n.uris.lookup p

/-- The prefix that a namespace was last bound to. -/
def boundPrefix? (n : Namespaces) (uri : String) : Option String := n.prefixes.lookup uri

/-- Whether nothing is bound. -/
def isEmpty (n : Namespaces) : Bool := n.uris.isEmpty

/-- A declaration of an element; of default declarations the first one counts. -/
def addDeclaration (n : Namespaces) (d : Declaration) : Namespaces :=
  match d.1 with
  | some p => n.declare (p, d.2)
  | none => if n.default?.isSome then n else n.declare (defaultPrefix, d.2)

/-- The declarations made on a list of nodes, in order. -/
def ofNodes (d : Document) (ids : List NodeId) : Namespaces :=
  (ids.flatMap fun id => ((d.element? id).map (·.declarations)).getD []).foldl addDeclaration empty

/-- The declarations of the document element and, if `recursive`, of all elements inside it. -/
def ofDocument (d : Document) (recursive : Bool) : Namespaces :=
  let element := Document.documentElement
  ofNodes d (if recursive then element :: d.descendants element else [element])

end Namespaces

end XmlAudit.Xml
