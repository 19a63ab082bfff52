import XmlAudit.Profile
import XmlAudit.Report.Basic

/-!
# Findings

* `Finding`: a check that found fault, with its place.
* `Finding.description`: its text in a language.
* `reportOf`: the report of findings, failed assertions first.
-/

namespace XmlAudit.Schematron

/-- Whether a finding is a failed assertion or a report. -/
inductive FindingKind where
  | failedAssert
  | successfulReport
deriving DecidableEq, Repr

/-- The text of a finding in a language. -/
structure WordedText where
  id : String
  lang : Option String
  text : String
deriving DecidableEq, Repr

/-- A check that found fault. -/
structure Finding where
  kind : FindingKind
  id : Option String
  flag : Option String
  role : Option String
  test : Option String
  location : Option String
  text : String
  wordings : List WordedText
deriving DecidableEq, Repr

namespace Finding

variable (f : Finding)

/-- The level that a finding names: its flag, or else its role. -/
def level? : Option String := f.flag.or f.role

/-- The severity of the level. -/
def severity : Severity := .ofLevel f.level?

/-- The language of a locale: what stands before a hyphen or an underscore. -/
def languageOf (locale : String) : String :=
  String.ofList (locale.toList.takeWhile fun c => !(c = '-' || c = '_'))

/-- Whether a text is in a language, whatever the case of its letters. -/
def isIn (language : String) (t : WordedText) : Bool :=
  t.lang.any fun l => Text.asciiLowercase l = Text.asciiLowercase language

/-- The texts in the language of a locale, or else the message. -/
def description (locale : String) : String :=
  let language := languageOf locale
  let texts := if language = "" then [] else (f.wordings.filter (isIn language)).map (·.text)
  if texts.isEmpty then Text.trim f.text else " ".intercalate texts

/-- The diagnostic of a finding, with what a profile includes. -/
def toDiagnostic (k : Location.Locator) (p : Profile) (locale : String) : Diagnostic :=
  { severity := f.severity
    description := f.description locale
    test := if p.includeTest then f.test.map Text.trim else none
    assertionId := if p.includeAssertionId then f.id else none
    location := (f.location.filter (!Text.allBlank ·)).map (k.render · p.locationPolicy) }

end Finding

/-- The report for an engine that gave no output. -/
def noOutput : Report :=
  .failure "Rule validation produced no output for the input" (some (Location.inInput 1 0))

/-- The report of findings: failed assertions first, then reports, each in their order. -/
def reportOf (k : Location.Locator) (p : Profile) (locale : String) :
    Option (List Finding) → Report
  | none => noOutput
  | some findings =>
    let ordered := findings.filter (·.kind = .failedAssert) ++
      findings.filter (·.kind ≠ .failedAssert)
    .ofDiagnostics (ordered.map (·.toDiagnostic k p locale))

end XmlAudit.Schematron
