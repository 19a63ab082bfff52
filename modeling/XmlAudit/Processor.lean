import XmlAudit.Artifact.SearchPath
import XmlAudit.Error
import XmlAudit.Location
import XmlAudit.Report.Basic

/-!
# The processor of schemas and stylesheets

Schemas and stylesheets are applied by a processor, of which the rest of the library knows only how
it is asked and what it answers.

* `Processor`: what is asked of it; `Processor.absent` refuses everything.
* `SchemaOutcome`: what it answers when a document is checked against a schema.
* `SchemaOutcome.report`: that answer as a report.
* `Processor.checkAll`: a document checked against several schemas.
-/

namespace XmlAudit

open Artifact (SearchPath)
open Files (Path FileTree)

/-- How grave a remark of the processor is. -/
inductive RemarkLevel where
  | warning
  | error
  | fatal
deriving DecidableEq, Repr, Inhabited

/-- A remark of the processor with its place; numbers that it does not know are 0. -/
structure Remark where
  level : RemarkLevel
  text : String
  line : Nat
  column : Nat
deriving DecidableEq, Repr, Inhabited

/-- What the processor answers when a document is checked against a schema. -/
inductive SchemaOutcome where
  | valid (remarks : List Remark)
  | invalid (errors : Nat) (remarks : List Remark)
  | broken (code : Int)
deriving DecidableEq, Repr

namespace SchemaOutcome

/-- The answer of a code: a positive one counts errors, and a negative one stands for a fault of the
processor. -/
def ofCode (code : Int) (remarks : List Remark) : SchemaOutcome :=
  if code = 0 then valid remarks
  else if 0 < code then invalid code.toNat remarks
  else broken code

/-- Whether the document is valid. -/
def isValid : SchemaOutcome → Bool
  | valid _ => true
  | _ => false

/-- Whether the document is invalid. -/
def isInvalid : SchemaOutcome → Bool
  | invalid _ _ => true
  | _ => false

/-- Whether the processor is at fault. -/
def isBroken : SchemaOutcome → Bool
  | broken _ => true
  | _ => false

/-- The remarks on the document. -/
def remarks : SchemaOutcome → List Remark
  | valid rs => rs
  | invalid _ rs => rs
  | broken _ => []

end SchemaOutcome

/-- The severity of a remark. -/
def RemarkLevel.severity : RemarkLevel → Severity
  | warning => .warning
  | error | fatal => .error

/-- A remark as a diagnostic. -/
def Remark.diagnostic (r : Remark) : Diagnostic :=
  ⟨r.level.severity, r.text, none, none, some (Location.inInput r.line r.column)⟩

/-- The diagnostic that stands for errors of which no remark tells. -/
def untoldErrors (errors : Nat) : Diagnostic :=
  ⟨.error, "Schema validation reported " ++ toString errors ++ " error(s) without details",
    none, none, none⟩

/-- The diagnostics of an answer: those of its remarks, and one more if the document is invalid and
none of them is an error. -/
def SchemaOutcome.diagnostics (o : SchemaOutcome) : List Diagnostic :=
  let ds := o.remarks.map Remark.diagnostic
  match o with
  | .invalid errors _ => if ds.any (·.severity = .error) then ds else ds ++ [untoldErrors errors]
  | _ => ds

/-- The report of an answer. -/
def SchemaOutcome.report (o : SchemaOutcome) : Report := .ofDiagnostics o.diagnostics

/-- What is asked of the processor. Stylesheets are compiled to a form of its own, and what they
refer to is looked up on a search path. -/
structure Processor (Sheet : Type) where
  check : FileTree → SearchPath → (schema input : Path) → Except ProcessorFault SchemaOutcome
  compile : FileTree → SearchPath → (stylesheet : Path) → Except ProcessorFault Sheet
  apply : FileTree → SearchPath → Sheet → (input : List UInt8) →
    Except ProcessorFault (List UInt8)

namespace Processor

/-- The processor of a host that has none. -/
def absent : Processor Empty where
  check _ _ _ _ := .error (.schemaUnreadable "there is no processor")
  compile _ _ stylesheet := .error (.stylesheetUnreadable stylesheet)
  apply _ _ sheet _ := nomatch sheet

variable {Sheet : Type} (k : Processor Sheet) (t : FileTree) (search : SearchPath)

/-- The compiled form of a stylesheet. The processor cannot be given a path with a NUL. -/
def sheet (stylesheet : Path) : Except ProcessorFault Sheet :=
  if stylesheet.holdsNul then .error (.unusablePath stylesheet)
  else k.compile t search stylesheet

/-- What checking a document against a schema answers. -/
def outcome (schema input : Path) : Except ProcessorFault SchemaOutcome := do
  if schema.holdsNul then throw (.unusablePath schema)
  match ← k.check t search schema input with
  | .broken code => throw (.validationFailed code input)
  | o => return o

/-- The report of a document checked against a schema; where that fails, the failure is all there is
to report. -/
def checkOne (schema input : Path) : Report :=
  match (k.outcome t search schema input).mapError AuditError.ofProcessor with
  | .ok o => o.report
  | .error e => .failure e.message none

/-- The report of a document checked against schemas in order. -/
def checkAll (schemas : List (Path × SearchPath)) (input : Path) : Report :=
  .aggregate (schemas.map fun s => some (k.checkOne t s.2 s.1 input))

end Processor

end XmlAudit
