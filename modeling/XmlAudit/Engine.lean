import XmlAudit.Config.Basic
import XmlAudit.Schematron.Validation

/-!
# Audits

An audit checks one input in phases: its artifacts are resolved, then it is checked against the
schemas, then against the rules, unless the profile stops where a schema found errors, and last by
plugins. Only faults of the request itself make an audit fail; all else ends up in its report.

* `Engine.audit`: the audit of one request.
* `Engine.auditAll`: the audits of several requests, in order.
-/

namespace XmlAudit

open Artifact (Kind Supplied)
open Files (Path FileTree)
open Xml (Document)

/-- What is to be checked: an input, its type and the artifacts that come along. -/
structure Request where
  input : List UInt8
  type : String
  schemas : List Supplied
  ruleSets : List Supplied
deriving DecidableEq, Repr

/-- Settings of audits. -/
structure EngineSettings where
  locale : String
  cacheDir : Path
  maxTransforms : UInt64
  disableTransforms : Bool
  /-- The directory in which working directories are made, if it is not the usual one. -/
  workRoot : Option Path
deriving DecidableEq, Repr

/-- The settings of audits in a configuration. -/
def EngineSettings.ofConfig (c : Config) : EngineSettings :=
  ⟨c.output.locale, c.cache.directory, c.cache.maxTransforms, c.cache.disableTransforms, none⟩

/-- A check of its own: it is given the files, the place of the input, the type and the working
directory, and may have nothing to report. -/
abbrev Plugin := FileTree → (input : Path) → (type : String) → (workDir : Path) → Option Report

/-- What carries out audits: where artifacts come from and what applies them. -/
structure Engine (Sheet : Type) where
  store : Remote.Store
  processor : Processor Sheet
  locale : String
  /-- The check against schemas, given the files, the place of the input and the schemas. -/
  checkSchemas : FileTree → Path → List Artifact → Report
  plugins : List Plugin
  /-- The directory in which working directories are made. -/
  workRoot : Path

/-- An audit: its report, and the schemas that the input was checked against. -/
structure Audit where
  report : Report
  schemas : List Artifact
deriving DecidableEq, Repr

/-- The check of a processor against schemas. -/
def Processor.schemaCheck (k : Processor Sheet) (t : FileTree) (input : Path)
    (schemas : List Artifact) : Report :=
  k.checkAll t (schemas.map fun a => (a.path, a.search)) input

/-- The artifacts of a phase, or the report that stands for the phase where they could not be had.
-/
abbrev Resolved := Except Report (List Artifact)

/-- The name of the input in the working directory. -/
def inputFileName : String := "input.xml"

namespace Engine

variable {Sheet : Type} (e : Engine Sheet) (now : Time.Instant) (p : Profile) (r : Request)

/-- The report as it is handed out: in order if the profile asks for that, and with the input if the
profile asks for that. -/
def finish (report : Report) : Report :=
  let ordered := if p.ordered then report.sorted else report
  let echo := String.ofList (Text.Utf8.decodeLossy r.input)
  ordered.complete now (if p.echoInput then some echo else none)

/-- The artifacts of a kind, or the report that stands for them; faults of the request are none. -/
def resolve (k : Kind) (external : List Supplied) (workDir : Path) : Task Sheet Resolved := do
  let resolver : Artifact.Resolver Sheet := ⟨e.store, e.processor⟩
  try return .ok (← resolver.resolve p r.type k external workDir)
  catch error =>
    if error.refusesRequest then throw error
    else return .error (.failure error.message none)

/-- The report of the check against schemas, with the schemas. -/
def schemaPhase (input : Path) (schemas : Resolved) (t : FileTree) : Audit :=
  match schemas with
  | .ok [] => ⟨.emptySuccess, []⟩
  | .ok artifacts => ⟨e.checkSchemas t input artifacts, artifacts⟩
  | .error report => ⟨report, []⟩

/-- The report of the check against rules, unless there are none. -/
def rulePhase (document : Document) (rules : Resolved) :
    StateM (Workspace Sheet) (Option Report) := do
  match rules with
  | .ok [] => return none
  | .ok artifacts =>
    let inspector : Schematron.Inspector Sheet := ⟨e.processor, e.locale, p, r.input, document⟩
    return some (← inspector.inspectAll artifacts)
  | .error report => return some report

/-- The reports of plugins, in order. -/
def pluginReports (input workDir : Path) (t : FileTree) : List Report :=
  e.plugins.filterMap fun plugin => plugin t input r.type workDir

/-- A report with those of plugins, if there are any. -/
def withPlugins (report : Report) (plugins : List Report) : Report :=
  if plugins.isEmpty then report
  else .aggregate [some report, some (.aggregate (plugins.map some))]

/-- The phases of an audit, given the artifacts, the document and the place of the input. -/
def phases (workDir input : Path) (schemas rules : Resolved) (document : Document) :
    StateM (Workspace Sheet) Audit := do
  let checked := e.schemaPhase input schemas (← get).files
  let report ←
    if p.stopsOnSchemaErrors r.type && !checked.report.isSuccess then pure checked.report
    else do pure (.aggregate [some checked.report, ← e.rulePhase p r document rules])
  return ⟨withPlugins report (e.pluginReports r input workDir (← get).files), checked.schemas⟩

/-- An audit in its working directory. An input that is no document is all there is to report. -/
def auditIn (workDir : Path) : Task Sheet Audit := do
  let schemas ← e.resolve p r .schema r.schemas workDir
  let rules ← e.resolve p r .ruleSet r.ruleSets workDir
  match Document.parse r.input with
  | .error m =>
    return ⟨.failure (AuditError.ofMalformed m).message (some (Location.inInput m.line 0)), []⟩
  | .ok document =>
    let input := workDir.child inputFileName
    let w ← get
    match w.files.write input r.input with
    | .error f =>
      return ⟨.failure ("Unable to store the input for validation: " ++ f.message) none, []⟩
    | .ok t => do
      set (w.withFiles t)
      e.phases p r workDir input schemas rules document

/-- The working directory of an audit. -/
def workDir : Path := e.workRoot.child (Config.programName ++ "-work")

/-- What is done in a new working directory, which is removed after it. -/
def inWorkDir (m : Path → Task Sheet Audit) : Task Sheet Audit := fun w =>
  match w.files.makeDirectory e.workDir with
  | .error f =>
    (.ok ⟨.failure ("Unable to create a working directory: " ++ f.message) none, []⟩, w)
  | .ok t =>
    let done := m e.workDir (w.withFiles t)
    -- the directory goes with all that is in it, and other files stay as they are left
    match t.locate e.workDir with
    | .ok k => (done.1, done.2.withFiles (done.2.files.eraseAll k))
    | .error _ => done

/-- **The audit of a request.** -/
def audit : Task Sheet Audit := do
  if !p.supports r.type then throw (.unknownType r.type)
  let a ← e.inWorkDir (e.auditIn p r)
  return { a with report := finish now p r a.report }

/-- **The audits of requests,** in order, each with its own outcome. -/
def auditAll (requests : List Request) :
    StateM (Workspace Sheet) (List (Except AuditError Audit)) :=
  requests.mapM fun r => (e.audit now p r).run

end Engine

end XmlAudit
