import XmlAudit.Error
import XmlAudit.Schematron.Finding
import XmlAudit.Xml.Parse

/-!
# Findings from the output of compiled rules

Rules compiled to a stylesheet report what they find in SVRL, the report language of Schematron.

* `findingsOf`: the findings of such an output; none if it is no such output.
-/

namespace XmlAudit.Schematron.Svrl

open Xml (Document NodeId Element)

/-- The namespace of SVRL. -/
def svrlNamespace : String := "http://purl.oclc.org/dsdl/svrl"

/-- Whether an element is the one of a name in SVRL. -/
def isNamed (name : String) (e : Element) : Bool :=
  e.name.localPart = name && e.uri = some svrlNamespace

/-- The value of an attribute with a name. -/
def attr? (e : Element) (name : Xml.QName) : Option String :=
  (e.attributes.find? (·.name = name)).map (·.value)

/-- The kind of finding that an element stands for. -/
def kind? (e : Element) : Option FindingKind :=
  if isNamed "failed-assert" e then some .failedAssert
  else if isNamed "successful-report" e then some .successfulReport
  else none

/-- The texts inside a node that are not blank, trimmed and joined with spaces. -/
def contentText (d : Document) (id : NodeId) : String :=
  let texts := ((d.descendants id).filterMap d.text?).map Text.trim
  " ".intercalate (texts.filter (· ≠ ""))

/-- The wording that a child of a finding holds. -/
def wording? (d : Document) (id : NodeId) : Option WordedText := do
  let e ← d.element? id
  if isNamed "text" e then none
  else if isNamed "diagnostic-reference" e then
    some ⟨(attr? e ⟨none, "diagnostic"⟩).getD "", attr? e ⟨some "xml", "lang"⟩, contentText d id⟩
  else none

/-- The message that a child of a finding holds. -/
def message? (d : Document) (id : NodeId) : Option String := do
  let e ← d.element? id
  if isNamed "text" e then some (d.stringValue id) else none

/-- The finding that an element stands for. -/
def finding? (d : Document) (id : NodeId) : Option Finding := do
  let e ← d.element? id
  let kind ← kind? e
  let value (name : String) : Option String := attr? e ⟨none, name⟩
  some ⟨kind, value "id", value "flag", value "role", value "test", value "location",
    (((d.children id).filterMap (message? d)).getLast?).getD "",
    (d.children id).filterMap (wording? d)⟩

/-- A blank of ASCII. -/
def isAsciiBlank (b : UInt8) : Bool := b = 32 || b = 9 || b = 10 || b = 12 || b = 13

/-- The findings of the output of compiled rules. -/
def findingsOf (output : List UInt8) : Except AuditError (Option (List Finding)) :=
  if output.all isAsciiBlank then .ok none
  else
    match Document.parse output with
    | .error m => .error (.ruleOutput (AuditError.ofMalformed m).message)
    | .ok d =>
      let root := Document.documentElement
      if (d.element? root).any (isNamed "schematron-output") then
        .ok (some ((d.descendants root).filterMap (finding? d)))
      else .ok none

end XmlAudit.Schematron.Svrl
