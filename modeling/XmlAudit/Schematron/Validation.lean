import XmlAudit.Artifact.Resolution
import XmlAudit.Schematron.Firing
import XmlAudit.Schematron.Load
import XmlAudit.Schematron.Svrl

/-!
# Checking a document against rule artifacts

A rule artifact is a file of rules, or a stylesheet that rules were compiled to; its extension tells
which. Each artifact yields a report of its own, and one that cannot be used yields one error.

* `RuleMode.of`: what is tried with an artifact.
* `Inspector.inspect`: the report of a document and an artifact.
* `Inspector.inspectAll`: the reports of all artifacts made one.
-/

namespace XmlAudit.Schematron

open Files (FileTree)
open Xml (Document)

/-- What is tried with an artifact. -/
inductive RuleMode where
  | compiled
  | raw
  /-- A stylesheet, unless it is a usable file of rules. -/
  | rawThenCompiled
deriving DecidableEq, Repr, Inhabited

/-- What is tried with an artifact, by its extension. -/
def RuleMode.of (a : Artifact) : RuleMode :=
  match a.extension? with
  | some "xsl" | some "xslt" => compiled
  | some "sch" => raw
  | _ => rawThenCompiled

/-- A document that is checked against rules, and how findings are reported. -/
structure Inspector (Sheet : Type) where
  processor : Processor Sheet
  locale : String
  profile : Profile
  input : List UInt8
  document : Document

namespace Inspector

variable {Sheet : Type} (i : Inspector Sheet)

/-- The report of a file of rules. -/
def ofRules (t : FileTree) (a : Artifact) : Except AuditError Report := do
  let rules ← RuleSet.load ⟨t, a.search⟩ a.path
  let found ← (rules.findings i.document).mapError .pathExpression
  return reportOf ⟨i.document, true⟩ i.profile i.locale (some found)

/-- The report of a stylesheet. -/
def ofStylesheet (a : Artifact) : Task Sheet Report := do
  let sheet ← MonadExcept.ofExcept
    ((← ExceptT.lift (Task.sheet i.processor a.path fun _ => a.search)).mapError
      fun f => .invalidTransform a.path f.message)
  Task.ofFiles fun t => do
    let output ← (i.processor.apply t a.search sheet i.input).mapError .ofProcessor
    let found ← Svrl.findingsOf output
    return reportOf ⟨i.document, false⟩ i.profile i.locale found

/-- The report of an artifact, if it can be used. -/
def attempt (a : Artifact) : Task Sheet Report := do
  match RuleMode.of a with
  | .compiled => i.ofStylesheet a
  | .raw => Task.ofFiles (i.ofRules · a)
  | .rawThenCompiled =>
    try Task.ofFiles (i.ofRules · a)
    catch
      | .invalidRuleSet _ _ =>
        try i.ofStylesheet a
        catch e => throw (.invalidRuleSet a.path e.message)
      | e => throw e

/-- **The report of an artifact;** where it cannot be used, that is all there is to report. -/
def inspect (a : Artifact) : StateM (Workspace Sheet) Report := do
  match ← (i.attempt a).run with
  | .ok r => return r
  | .error e => return .failure e.message none

/-- The reports of artifacts, in order, made one. -/
def inspectAll (artifacts : List Artifact) : StateM (Workspace Sheet) Report := do
  return .aggregate ((← artifacts.mapM i.inspect).map some)

end Inspector

end XmlAudit.Schematron
