import XmlAudit.Text.Blank
import XmlAudit.Url.Parse
import XmlAudit.Xml.Attribute
import XmlAudit.Xml.Name
import XmlAudit.Xml.Reference

/-!
# The references of a schema

A schema brings in others by elements that name their addresses. Only markup is looked at, so that
an unfinished or broken document still yields the references before its first error.

* `schemaLocations`: the addresses that a document names, as written.
* `webReferences`: those that are fetched over the net, made absolute.
-/

namespace XmlAudit.Remote

open Text (Utf8.decode?)
open Xml (Event Tag RawAttribute QName Reader)

/-- The local names of the elements that bring in another schema. -/
def linkNames : List String := ["import", "include", "redefine", "override"]

/-- The octets of a document, each as the character of its number: markup is ASCII. -/
def charsOfOctets (bytes : List UInt8) : List Char := bytes.map fun b => Char.ofNat b.toNat

/-- The octets that such characters stand for. -/
def octetsOfChars (cs : List Char) : List UInt8 := cs.map fun c => UInt8.ofNat c.toNat

/-- Octets without the mark of UTF-8 at their start. -/
def withoutMark : List UInt8 → List UInt8
  | 0xef :: 0xbb :: 0xbf :: rest => rest
  | bytes => bytes

/-- The address that an attribute names. Only predefined entities stand for something in it. -/
def schemaLocation? (a : RawAttribute) : Option String :=
  if (QName.ofChars a.key).localPart = "schemaLocation" then do
    let value ← Utf8.decode? (octetsOfChars a.value)
    let expanded ← (Xml.expand [] value).toOption
    return Text.trim (String.ofList expanded)
  else none

/-- The addresses that a tag names. -/
def linksOfTag (tag : Tag) : List String :=
  if linkNames.contains (QName.ofChars tag.name).localPart then
    (tag.attributes.filterMap Except.toOption).filterMap schemaLocation?
  else []

/-- The addresses that an event names. -/
def linksOfEvent : Event → List String
  | .start tag => linksOfTag tag
  | .empty tag => linksOfTag tag
  | _ => []

/-- The reader before the first markup that is no event. -/
def lastReader (r : Reader) : Reader :=
  match h : r.next with
  | .found _ _ next =>
    have : next.rest.length < r.rest.length := Reader.next_length h
    lastReader next
  | _ => r
termination_by r.rest.length

/-- The tag in which a document ends before it is closed, if it does. -/
def unclosedTag? (r : Reader) : Option Event :=
  match r.next with
  | .failed (.unexpectedEnd .element) _ =>
    some (Xml.tagEvent (if r.inMarkup then r.rest else r.rest.drop 1))
  | _ => none

/-- **The addresses that a document names,** in order, up to its first error. A tag that the
document ends in counts. -/
def schemaLocations (content : List UInt8) : List String :=
  let start : Reader := ⟨charsOfOctets (withoutMark content), 0, false, []⟩
  (start.events.1.map (·.1) ++ (unclosedTag? (lastReader start)).toList).flatMap linksOfEvent

/-- The absolute address of a reference, if it is fetched over the net. -/
def webReference? (base location : String) : Option String := do
  let u ← (Url.parse base).toOption
  let v ← (Url.join u location).toOption
  if v.isWeb then some v.render else none

/-- The absolute addresses over the net that the document at an address names. -/
def webReferences (base : String) (content : List UInt8) : List String :=
  (schemaLocations content).filterMap (webReference? base)

end XmlAudit.Remote
