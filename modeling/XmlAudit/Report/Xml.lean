import XmlAudit.Report.Basic
import XmlAudit.Xml.Printer

/-!
# Reports as XML

* `Report.toMarkup`: the elements of a report.
* `Report.toXml`: the report as an XML document.
-/

namespace XmlAudit

open Xml (Markup)

/-- An element that holds a number. -/
def countElement (name : String) (n : UInt64) : Markup := .leaf name [] (toString n.toNat)

/-- An element that holds a text, if there is one. -/
def textElement (name : String) (value : Option String) : List Markup :=
  (value.map (Markup.leaf name [])).toList

/-- The element of a diagnostic, which its severity names. -/
def Diagnostic.toMarkup (d : Diagnostic) : Markup :=
  .group d.severity.name []
    (.leaf "description" [] d.description :: textElement "location" d.location ++
      textElement "test" d.test ++ textElement "assertionID" d.assertionId)

namespace Report

/-- The element of a report. -/
def toMarkup (r : Report) : Markup :=
  let c := r.effectiveCounters
  .group "validationReport"
    (("result", r.verdict.name) :: (r.date.map fun t => ("date", t.renderLong)).toList)
    ([.group "counters" [] [countElement "nrOfErrors" c.errors,
        countElement "nrOfWarnings" c.warnings, countElement "nrOfAssertions" c.infos]] ++
      (r.context.map fun s =>
        Markup.group "context" [] [.leaf "item" [("name", "input")] s]).toList ++
      [.group "reports" [] (r.diagnostics.map Diagnostic.toMarkup)])

/-- The report as an XML document. -/
def toXml (r : Report) : String := r.toMarkup.render

end Report

end XmlAudit
