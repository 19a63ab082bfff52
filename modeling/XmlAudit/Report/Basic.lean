import XmlAudit.Text.Blank
import XmlAudit.Text.Case
import XmlAudit.Time.Instant

/-!
# Reports

* `Report`: a verdict with the diagnostics that led to it.
* `Report.ofDiagnostics`, `Report.failure`: reports made of diagnostics.
* `Report.merge`, `Report.aggregate`: several reports made one.
* `Report.sorted`, `Report.complete`: the report as it is handed out.
-/

namespace XmlAudit

/-- How grave a diagnostic is. -/
inductive Severity where
  | error
  | warning
  | info
deriving DecidableEq, Repr, Inhabited

namespace Severity

/-- The place of a severity in the order of diagnostics. -/
def rank : Severity → Nat
  | error => 0
  | warning => 1
  | info => 2

/-- The name of a severity. -/
def name : Severity → String
  | error => "error"
  | warning => "warning"
  | info => "info"

/-- The severity of a level that a rule names: an error unless the level says otherwise. -/
def ofLevel (level : Option String) : Severity :=
  match level.map fun l => Text.asciiLowercase (Text.trim l) with
  | some "success" | some "info" | some "information" => info
  | some "warning" | some "warn" => warning
  | _ => error

end Severity

/-- What a run concludes. -/
inductive Verdict where
  | success
  | warning
  | failure
  | undefined
deriving DecidableEq, Repr, Inhabited

/-- The name of a verdict. -/
def Verdict.name : Verdict → String
  | success => "SUCCESS"
  | warning => "WARNING"
  | failure => "FAILURE"
  | undefined => "UNDEFINED"

/-- One finding as it is reported. -/
structure Diagnostic where
  severity : Severity
  description : String
  test : Option String
  assertionId : Option String
  location : Option String
deriving DecidableEq, Repr, Inhabited

/-- How many diagnostics there are of each severity, in words of 64 bits. -/
structure Counters where
  errors : UInt64
  warnings : UInt64
  infos : UInt64
deriving DecidableEq, Repr, Inhabited

namespace Counters

/-- No diagnostics. -/
def zero : Counters := ⟨0, 0, 0⟩

/-- One diagnostic more. -/
def count (c : Counters) : Severity → Counters
  | .error => { c with errors := c.errors + 1 }
  | .warning => { c with warnings := c.warnings + 1 }
  | .info => { c with infos := c.infos + 1 }

/-- The counters of diagnostics. -/
def ofDiagnostics (ds : List Diagnostic) : Counters := ds.foldl (fun c d => c.count d.severity) zero

/-- The counters of two reports together. -/
def add (a b : Counters) : Counters :=
  ⟨a.errors + b.errors, a.warnings + b.warnings, a.infos + b.infos⟩

end Counters

/-- The outcome of a run: `context` repeats the input, and `counters` may be left out, as they
follow from the diagnostics. -/
structure Report where
  verdict : Verdict
  date : Option Time.Instant
  counters : Option Counters
  diagnostics : List Diagnostic
  context : Option String
deriving DecidableEq, Repr, Inhabited

namespace Report

/-- A verdict without diagnostics. -/
def ofVerdict (v : Verdict) : Report := ⟨v, none, none, [], none⟩

/-- The report of a phase that had nothing to do. -/
def emptySuccess : Report := ⟨.success, none, some .zero, [], none⟩

/-- The verdict over diagnostics: any error fails. -/
def verdictOf (ds : List Diagnostic) : Verdict :=
  if ds.any (·.severity = .error) then .failure else .success

/-- The report of diagnostics. -/
def ofDiagnostics (ds : List Diagnostic) : Report :=
  ⟨verdictOf ds, none, some (.ofDiagnostics ds), ds, none⟩

/-- The report of one error. -/
def failure (description : String) (location : Option String) : Report :=
  ofDiagnostics [⟨.error, description, none, none, location⟩]

/-- The counters as stored, or else those of the diagnostics. -/
def effectiveCounters (r : Report) : Counters := r.counters.getD (.ofDiagnostics r.diagnostics)

/-- Whether the verdict is success. -/
def isSuccess (r : Report) : Bool := r.verdict = .success

/-- The verdict of two reports: the first one's, unless it is success or undefined and the second
one's is defined. -/
def mergeVerdict (a b : Verdict) : Verdict :=
  if (a = .undefined || a = .success) && b ≠ .undefined then b else a

/-- Two reports made one: counters are summed and diagnostics put one after the other. -/
def merge (a b : Report) : Report :=
  ⟨mergeVerdict a.verdict b.verdict, a.date.or b.date,
    some (a.effectiveCounters.add b.effectiveCounters), a.diagnostics ++ b.diagnostics,
    a.context.or b.context⟩

/-- Reports made one, in order; a missing report counts as a success without diagnostics. -/
def aggregate (reports : List (Option Report)) : Report :=
  match reports.map (·.getD emptySuccess) with
  | [] => emptySuccess
  | seed :: rest => rest.foldl merge seed

/-- The report with errors first, then warnings, each in their order. -/
def sorted (r : Report) : Report :=
  { r with diagnostics := r.diagnostics.mergeSort fun a b => a.severity.rank ≤ b.severity.rank }

/-- The report with a date, counters and, where it is given, the input. -/
def complete (r : Report) (now : Time.Instant) (input : Option String) : Report :=
  { r with
    date := r.date.or (some now)
    context := r.context.or input
    counters := r.counters.or (some (.ofDiagnostics r.diagnostics)) }

end Report

end XmlAudit
