import XmlAudit.Data.JsonText
import XmlAudit.Report.Basic

/-!
# Reports as data

* `Report.toData`, `Report.ofData?`: a report as a record and back.
* `Report.toJson`, `Report.ofJson?`: the report as JSON text and back.
-/

namespace XmlAudit

open Data (text? choice? natBelow? list? record?)

/-- An entry that is there only if its value is. -/
def optionalEntry (key : String) (write : α → Data) (value : Option α) : List (String × Data) :=
  (value.map fun v => (key, write v)).toList

/-- The severity of a name. -/
def Severity.ofName? : String → Option Severity
  | "error" => some error
  | "warning" => some warning
  | "info" => some info
  | _ => none

/-- The verdict of a name. -/
def Verdict.ofName? : String → Option Verdict
  | "SUCCESS" => some success
  | "WARNING" => some warning
  | "FAILURE" => some failure
  | "UNDEFINED" => some undefined
  | _ => none

/-- A word of 64 bits as data. -/
def wordData (n : UInt64) : Data := .integer n.toNat

/-- The word of 64 bits that data is. -/
def word? (d : Data) : Option UInt64 := (natBelow? UInt64.size d).map UInt64.ofNat

namespace Counters

/-- Counters as a record. -/
def toData (c : Counters) : Data :=
  .table [("errors", wordData c.errors), ("warnings", wordData c.warnings),
    ("infos", wordData c.infos)]

/-- The counters of a record. -/
def ofData? (d : Data) : Option Counters := do
  match ← record? .json ["errors", "warnings", "infos"] d with
  | [e, w, i] => return ⟨← required? word? e, ← required? word? w, ← required? word? i⟩
  | _ => none

end Counters

namespace Diagnostic

/-- A diagnostic as a record. -/
def toData (d : Diagnostic) : Data :=
  .table ([("severity", .text d.severity.name), ("description", .text d.description)] ++
    optionalEntry "test" .text d.test ++ optionalEntry "assertion_id" .text d.assertionId ++
    optionalEntry "location" .text d.location)

/-- The diagnostic of a record. -/
def ofData? (d : Data) : Option Diagnostic := do
  match ← record? .json ["severity", "description", "test", "assertion_id", "location"] d with
  | [s, x, t, a, l] =>
    let severity ← required? (fun v => (choice? .json v).bind Severity.ofName?) s
    return ⟨severity, ← required? text? x, ← optional? text? t, ← optional? text? a,
      ← optional? text? l⟩
  | _ => none

end Diagnostic

namespace Report

/-- A report as a record. -/
def toData (r : Report) : Data :=
  .table ([("verdict", .text r.verdict.name)] ++
    optionalEntry "date" (fun t => .text t.renderShort) r.date ++
    optionalEntry "counters" Counters.toData r.counters ++
    [("diagnostics", .list (r.diagnostics.map Diagnostic.toData))] ++
    optionalEntry "context" .text r.context)

/-- The report of a record. -/
def ofData? (d : Data) : Option Report := do
  match ← record? .json ["verdict", "date", "counters", "diagnostics", "context"] d with
  | [v, t, c, ds, x] =>
    let verdict ← required? (fun v => (choice? .json v).bind Verdict.ofName?) v
    let date ← optional? (fun v => (text? v).bind Time.Instant.parse?) t
    return ⟨verdict, date, ← optional? Counters.ofData? c,
      ← withDefault? [] (list? Diagnostic.ofData?) ds, ← optional? text? x⟩
  | _ => none

/-- The report as JSON text. -/
def toJson (r : Report) : String := r.toData.renderJson

/-- The report that a JSON text spells. -/
def ofJson? (s : String) : Option Report := (Data.parseJson? s).bind ofData?

end Report

end XmlAudit
