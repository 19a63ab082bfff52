import XmlAudit.Xml.Attribute
import XmlAudit.Xml.Document
import XmlAudit.Xml.Reference

/-!
# Trees from events

* `Builder`: the open elements with what has been read of them.
* `Builder.step`: what an event adds.
* `Builder.finish`: the tree at the end of the events.

Character data between two tags is one text, however many events it comes in.
-/

namespace XmlAudit.Xml

/-- An open element: the declarations in force inside it, the innermost first, and its children so
far, the last first. -/
structure Frame where
  element : Element
  line : Nat
  scope : List Declaration
  children : List Tree

/-- The open elements, the innermost first, the tree of a closed document element, the character
data since the last tag with the line of its first piece, and the declared entities. -/
structure Builder where
  opened : List Frame
  root : Option Tree
  pending : List Char
  pendingLine : Nat
  entities : Entities

/-- The builder before the first event. -/
def Builder.initial : Builder := ⟨[], none, [], 0, []⟩

/-- The namespace of a qualifier, of which `xml` needs no declaration. -/
def resolveQualifier (scope : List Declaration) (qualifier : String) : Except Fault String :=
  if qualifier = "xml" then .ok xmlNamespace
  else
    match scope.lookup (some qualifier) with
    | some uri => .ok uri
    | none => .error (.unboundPrefix qualifier)

/-- The namespace of an element: an empty default declaration takes names out of every one. -/
def elementUri (scope : List Declaration) (name : QName) : Except Fault (Option String) :=
  match name.qualifier with
  | some q => (resolveQualifier scope q).map some
  | none => .ok ((scope.lookup none).filter (· ≠ ""))

/-- The namespace of an attribute, to which default declarations do not apply. -/
def attributeUri (scope : List Declaration) (name : QName) : Except Fault (Option String) :=
  match name.qualifier with
  | some q => (resolveQualifier scope q).map some
  | none => .ok none

/-- The qualifier that an attribute declares, if its key makes it a namespace declaration. -/
def declaredQualifier? (key : List Char) : Option (Option String) :=
  if key = "xmlns".toList then some none
  else (Text.dropWord "xmlns:".toList key).map fun q => some (String.ofList q)

/-- The keys and values of a tag, with the references in the values expanded. -/
def readAttributes (entities : Entities) :
    List (Except AttributeFault RawAttribute) → Except Fault (List (List Char × String))
  | [] => .ok []
  | .error fault :: _ => .error (.badAttribute fault)
  | .ok a :: rest =>
    match expand entities a.value with
    | .error fault => .error (.badReference fault)
    | .ok value => do
      let later ← readAttributes entities rest
      return (a.key, String.ofList value) :: later

/-- The declarations among the attributes of a tag. -/
def declarationsOf (attributes : List (List Char × String)) : List Declaration :=
  attributes.filterMap fun a => (declaredQualifier? a.1).map (·, a.2)

/-- The attributes of a tag that declare nothing. -/
def plainAttributes (attributes : List (List Char × String)) : List (QName × String) :=
  attributes.filterMap fun a =>
    if (declaredQualifier? a.1).isSome then none else some (QName.ofChars a.1, a.2)

/-- The element of a start tag inside the declarations `outer`, and the declarations inside it. -/
def openElement (entities : Entities) (outer : List Declaration) (tag : Tag) :
    Except Fault (Element × List Declaration) := do
  let attributes ← readAttributes entities tag.attributes
  let declarations := declarationsOf attributes
  let scope := declarations.reverse ++ outer
  let name := QName.ofChars tag.name
  let uri ← elementUri scope name
  let plain ← (plainAttributes attributes).mapM fun a => do
    let uri ← attributeUri scope a.1
    return Attribute.mk a.1 uri a.2
  return (⟨name, uri, plain, declarations⟩, scope)

namespace Builder

/-- The pending character data made a child of the innermost open element. -/
def flush (b : Builder) : Builder :=
  match b.pending, b.opened with
  | [], _ => b
  | _, [] => { b with pending := [] }
  | pending, frame :: outer =>
    let text := Tree.text b.pendingLine (String.ofList pending)
    { b with
      pending := []
      opened := { frame with children := text :: frame.children } :: outer }

/-- A closed element added to what contains it. -/
def attach (b : Builder) (tree : Tree) : Builder :=
  match b.opened with
  | [] => { b with root := some tree }
  | frame :: outer =>
    { b with opened := { frame with children := tree :: frame.children } :: outer }

/-- A start tag: no second document element may start. -/
def start (b : Builder) (tag : Tag) (line : Nat) : Except Fault Builder :=
  if b.opened.isEmpty && b.root.isSome then .error .secondRoot
  else do
    -- the text before the tag belongs to what contains the new element
    let b := b.flush
    let outer := (b.opened.head?.map (·.scope)).getD []
    let (element, scope) ← openElement b.entities outer tag
    return { b with opened := ⟨element, line, scope, []⟩ :: b.opened }

/-- An end tag: the innermost open element is complete. -/
def stop (b : Builder) : Except Fault Builder :=
  let b := b.flush
  match b.opened with
  | [] => .error .strayEnd
  | frame :: outer =>
    .ok ({ b with opened := outer }.attach
      (.element frame.line frame.element frame.children.reverse))

/-- Character data: outside the document element it must be blank. -/
def append (b : Builder) (text : List Char) (line : Nat) : Except Fault Builder :=
  if b.opened.isEmpty then
    if text.all Text.isBlank then .ok b else .error .textOutsideRoot
  else
    .ok { b with
      pendingLine := if b.pending.isEmpty then line else b.pendingLine
      pending := b.pending ++ text }

/-- What an event that ends on a line adds. -/
def step (b : Builder) (event : Event) (line : Nat) : Except Fault Builder :=
  match event with
  | .start tag => b.start tag line
  | .empty tag => do (← b.start tag line).stop
  | .stop _ => b.stop
  | .text raw =>
    match expand b.entities raw with
    | .ok text => b.append text line
    | .error fault => .error (.badReference fault)
  | .cdata text => b.append text line
  | .doctype content => .ok { b with entities := b.entities.declare content }
  | .other => .ok b

/-- All events, each with its line; the first fault ends the reading. -/
def run (b : Builder) : List (Event × Nat) → Except Malformed Builder
  | [] => .ok b
  | (event, line) :: rest =>
    match b.step event line with
    | .ok next => next.run rest
    | .error fault => .error ⟨line, fault⟩

/-- The tree of the document element, once every element is closed. -/
def finish (b : Builder) : Except Fault Tree :=
  match b.opened, b.root with
  | frame :: _, _ => .error (.unclosed frame.element.name.render)
  | [], some tree => .ok tree
  | [], none => .error .noRoot

end Builder

end XmlAudit.Xml
