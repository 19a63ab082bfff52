import XmlAudit.CommandLine
import XmlAudit.Error
import XmlAudit.Number.Decimal
import XmlAudit.Report.Record
import XmlAudit.Report.Xml

/-!
# Reports on the console and on disk

* `Report.listing`: what is printed of a report.
* `rejectionLine`, `summary`: what is printed for an input that was refused, and at the end.
* `Report.render`, `reportFileName`, `Report.write`: reports as files, numbered by input.
-/

namespace XmlAudit

open Files (Path FileTree)

/-- A line of a listing, indented. -/
def line (indent : Nat) (text : String) : String :=
  String.ofList (List.replicate indent ' ') ++ text ++ "\n"

/-- The lines of a diagnostic. -/
def Diagnostic.listing (d : Diagnostic) : String :=
  line 4 ("[" ++ d.severity.name ++ "] " ++ d.location.getD "-" ++ ": " ++ d.description) ++
    (d.assertionId.map fun id => line 6 ("rule: " ++ id)).getD "" ++
    (d.test.map fun test => line 6 ("test: " ++ test)).getD ""

namespace Report

/-- The lines of a report without its diagnostics. -/
def heading (r : Report) (input : Path) : String :=
  let c := r.effectiveCounters
  line 0 ("Validating " ++ input.text) ++
    (r.date.map fun t => line 2 ("Date: " ++ t.renderLong)).getD "" ++
    line 2 ("Result: " ++ r.verdict.name) ++ line 2 ("Errors: " ++ toString c.errors.toNat) ++
    line 2 ("Warnings: " ++ toString c.warnings.toNat) ++
    line 2 ("Messages: " ++ toString c.infos.toNat)

/-- What is printed of the report of an input. -/
def listing (r : Report) (verbosity : Verbosity) (input : Path) : String :=
  match verbosity with
  | .quiet => line 0 (input.text ++ ": " ++ r.verdict.name)
  | .normal => r.heading input
  | .verbose => r.heading input ++ String.join (r.diagnostics.map Diagnostic.listing)

end Report

/-- What is printed for an input that was refused. -/
def rejectionLine (input : Path) (e : AuditError) : String :=
  line 0 ("✗ REJECTED  " ++ input.text ++ " - " ++ e.message)

/-- The seconds of a number of milliseconds. -/
def secondsOf (milliseconds : Nat) : Float :=
  Float.ofNat (milliseconds / 1000) + Float.ofNat (milliseconds % 1000 * 1000000) / 1e9

/-- A time span in the unit that suits it. -/
def duration (milliseconds : Nat) : String :=
  let seconds := secondsOf milliseconds
  if seconds < 1 then toString milliseconds ++ "ms"
  else if seconds < 60 then Number.Decimal.renderPlaces 2 seconds ++ "s"
  else
    let minutes := (seconds / 60).toUInt64
    toString minutes.toNat ++ "m" ++
      Number.Decimal.renderPlaces 1 (Number.Double.remainder seconds 60) ++ "s"

/-- What is printed after all inputs. -/
def summary (verbosity : Verbosity) (total succeeded : UInt64) (milliseconds : Nat) : String :=
  if verbosity = .quiet then ""
  else
    let failed := total - succeeded
    line 0 "Summary:" ++ line 2 ("Inputs: " ++ toString total.toNat) ++
      line 2 ("Succeeded: " ++ toString succeeded.toNat) ++
      (if failed > 0 then line 2 ("Failed: " ++ toString failed.toNat) else "") ++
      line 2 ("Duration: " ++ duration milliseconds)

/-- The extension of reports in a format. -/
def Format.extension : Format → String
  | json => "json"
  | human | xml => "xml"

/-- The name of the report of the input with a number. -/
def reportFileName (index : Nat) (format : Format) : String :=
  "report." ++ toString index ++ "." ++ format.extension

namespace Report

/-- The report as it is written in a format; what is for people to read is XML on disk. -/
def render (r : Report) : Format → String
  | .json => r.toJson
  | .human | .xml => r.toXml

/-- The tree of files with a report in a directory, and its path. -/
def write (r : Report) (t : FileTree) (directory : Path) (index : Nat) (format : Format) :
    Except Files.Fault (FileTree × Path) := do
  let t ← t.makeDirectories directory
  let path := directory.child (reportFileName index format)
  return (← t.write path (Text.Utf8.encode (r.render format)), path)

end Report

end XmlAudit
