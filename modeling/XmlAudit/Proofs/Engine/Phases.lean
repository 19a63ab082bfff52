import XmlAudit.Engine
import XmlAudit.Proofs.Outcome
import XmlAudit.Proofs.Report.Merging

/-!
# The phases of an audit

* `schemaReport`, `ruleReport`: the reports of the phases, given what was found of their artifacts.
* `Engine.course`: the reports of an audit in order, and the workspace behind it.
* `Report.Sums`: a report that is handed out for others.
* `audit_phases`: what an audit does once its artifacts are found.
-/

namespace XmlAudit

open Artifact (Kind Supplied)
open Files (Path FileTree)
open Xml (Document)

variable {Sheet : Type}

/-! ## Phases -/

/-- The outcome of looking for artifacts does not refuse the request. -/
def Tolerable (found : Except AuditError (List Artifact)) : Prop :=
  ∀ f, found = .error f → f.refusesRequest = false

theorem tolerable_or (found : Except AuditError (List Artifact)) :
    Tolerable found ∨ ∃ f, found = .error f ∧ f.refusesRequest := by
  cases found with
  | ok artifacts =>
    refine .inl ?_
    rintro f ⟨⟩
  | error f =>
    cases hf : f.refusesRequest with
    | true => exact .inr ⟨f, rfl, hf⟩
    | false =>
      refine .inl ?_
      rintro _ ⟨⟩
      exact hf

/-- **The report of the schema phase**: that of the check, an empty success where no schema applies,
and a failure in place of schemas that cannot be had. -/
def schemaReport (check : List Artifact → Report) (found : Except AuditError (List Artifact)) :
    Report :=
  match found with
  | .ok [] => .emptySuccess
  | .ok artifacts => check artifacts
  | .error f => .failure f.message none

/-- **The report of the rule phase**, likewise, with the workspace behind it. -/
def ruleReport (inspect : List Artifact → StateM (Workspace Sheet) Report)
    (found : Except AuditError (List Artifact)) : StateM (Workspace Sheet) Report :=
  match found with
  | .ok [] => pure .emptySuccess
  | .ok artifacts => inspect artifacts
  | .error f => pure (.failure f.message none)

namespace Engine

variable (e : Engine Sheet) (p : Profile) (r : Request)

/-- What finds the artifacts of an engine. -/
def resolver : Artifact.Resolver Sheet := ⟨e.store, e.processor⟩

/-- The place of the input in the working directory. -/
def inputPath : Path := e.workDir.child inputFileName

/-- What inspects a document. -/
def inspector (d : Document) : Schematron.Inspector Sheet :=
  ⟨e.processor, e.locale, p, r.input, d⟩

/-- The workspace without the working directory. -/
def cleared (t : FileTree) (w : Workspace Sheet) : Workspace Sheet :=
  match t.locate e.workDir with
  | .ok k => w.withFiles (w.files.eraseAll k)
  | .error _ => w

/-- **The reports of an audit**, in order, and the workspace behind it. The rule phase runs unless the
profile stops behind a schema phase that is no success; plugins run in either case. -/
def course (d : Document) (schemas rules : Except AuditError (List Artifact))
    (w : Workspace Sheet) : List Report × Workspace Sheet :=
  let checked := schemaReport (e.checkSchemas w.files e.inputPath) schemas
  if p.stopsOnSchemaErrors r.type ∧ checked.verdict ≠ .success then
    (checked :: e.pluginReports r e.inputPath e.workDir w.files, w)
  else
    let done := (ruleReport (e.inspector p r d).inspectAll rules).run w
    (checked :: done.1 :: e.pluginReports r e.inputPath e.workDir done.2.files, done.2)

end Engine

/-! ## Reports -/

/-- **A report that is handed out for others**: it has their verdict, their counters and all of their
diagnostics, in order or by severity, and it is dated. -/
structure Report.Sums (p : Profile) (report : Report) (reports : List Report) : Prop where
  verdict : report.verdict = (aggregate (reports.map some)).verdict
  counters : report.counters = some (aggregate (reports.map some)).effectiveCounters
  diagnostics : report.diagnostics =
    if p.ordered then bySeverity (reports.flatMap (·.diagnostics))
    else reports.flatMap (·.diagnostics)
  dated : report.date.isSome

section

variable {now : Time.Instant} {p : Profile} {r : Request} {report : Report} {reports : List Report}

/-- What a report says stays when it is handed out, but for the order of its diagnostics. -/
theorem Engine.finish_sums (h : report.conclusion = (Report.aggregate (reports.map some)).conclusion) :
    (Engine.finish now p r report).Sums p reports := by
  obtain ⟨hverdict, hcounters, hdiagnostics⟩ := Conclusion.mk.inj h
  have hall : report.diagnostics = reports.flatMap (·.diagnostics) := by
    rw [hdiagnostics, Report.diagnostics_aggregate, List.flatMap_map]
    rfl
  rw [Engine.finish]
  refine ⟨?_, ?_, ?_, Report.isSome_date_complete _ _ _⟩
  · rw [← hverdict]
    cases p.ordered <;> rfl
  · rw [Report.counters_complete, ← hcounters]
    cases p.ordered with
    | true => exact congrArg some (Report.effectiveCounters_sorted report)
    | false => rfl
  · rw [← hall]
    cases p.ordered with
    | true => exact Report.diagnostics_sorted report
    | false => rfl

/-- The reports of plugins join those before them. -/
theorem Engine.conclusion_withPlugins (a : Report) (rs plugins : List Report)
    (h : report.conclusion = (Report.aggregate ((a :: rs).map some)).conclusion) :
    (Engine.withPlugins report plugins).conclusion =
      (Report.aggregate ((a :: rs ++ plugins).map some)).conclusion := by
  rw [Engine.withPlugins]
  cases plugins with
  | nil =>
    rw [List.append_nil]
    exact h
  | cons b plugins =>
    calc (Report.aggregate [some report, some (Report.aggregate ((b :: plugins).map some))]).conclusion
        = report.conclusion.merge (Report.aggregate ((b :: plugins).map some)).conclusion := rfl
      _ = ((Report.aggregate ((a :: rs).map some)).merge
            (Report.aggregate ((b :: plugins).map some))).conclusion := by
        rw [h, Report.conclusion_merge]
      _ = _ := by
        rw [← Report.aggregate_append (by simp) (by simp), ← List.map_append]

end

/-! ## Steps of an audit -/

namespace Engine

variable {e : Engine Sheet} {now : Time.Instant} {p : Profile} {r : Request}
  {w w' w₁ w₂ : Workspace Sheet} {t : FileTree} {xs xr : Except AuditError (List Artifact)}

/-- Artifacts, or the report that stands for them. -/
def standIn (found : Except AuditError (List Artifact)) : Resolved :=
  found.mapError fun f => .failure f.message none

/-- Where finding artifacts does not refuse the request, they or their stand-in are at hand. -/
theorem resolve_eq {k : Kind} {external : List Supplied} {workDir : Path}
    {found : Except AuditError (List Artifact)} (hfound : Tolerable found)
    (h : e.resolver.resolve p r.type k external workDir w = (found, w')) :
    e.resolve p r k external workDir w = (.ok (standIn found), w') := by
  unfold Engine.resolve
  -- both ways out of the block return early
  let early : Except Resolved Resolved := .error (standIn found)
  refine bind_run_ok (a := early) ?_
  cases found with
  | ok artifacts => exact tryCatch_run_ok (bind_run_ok h)
  | error f =>
    refine (tryCatch_run_error (bind_run_error h)).trans ?_
    rw [hfound f rfl]
    rfl

/-- Where finding artifacts refuses the request, they are not looked for any further. -/
theorem resolve_refusing {k : Kind} {external : List Supplied} {workDir : Path} {f : AuditError}
    (hf : f.refusesRequest)
    (h : e.resolver.resolve p r.type k external workDir w = (.error f, w')) :
    e.resolve p r k external workDir w = (.error f, w') := by
  unfold Engine.resolve
  refine bind_run_error ?_
  refine (tryCatch_run_error (bind_run_error h)).trans ?_
  rw [hf]
  rfl

theorem schemaPhase_report (input : Path) (t : FileTree) :
    (e.schemaPhase input (standIn xs) t).report = schemaReport (e.checkSchemas t input) xs := by
  cases xs with
  | ok artifacts => cases artifacts <;> rfl
  | error f => rfl

/-- Where no rules apply, there is no report, and that counts as an empty success. -/
theorem rulePhase_run (d : Document) :
    let done := (e.rulePhase p r d (standIn xr)).run w
    (ruleReport (e.inspector p r d).inspectAll xr).run w =
      (done.1.getD Report.emptySuccess, done.2) := by
  cases xr with
  | ok artifacts => cases artifacts <;> rfl
  | error f => rfl

/-- **The phases of an audit** take their course, and their report says what all of theirs say. -/
theorem phases_run (e : Engine Sheet) (p : Profile) (r : Request) (d : Document)
    (xs xr : Except AuditError (List Artifact)) (w : Workspace Sheet) :
    ∃ a, (e.phases p r e.workDir e.inputPath (standIn xs) (standIn xr) d).run w =
        (a, (e.course p r d xs xr w).2) ∧
      a.report.conclusion =
        (Report.aggregate ((e.course p r d xs xr w).1.map some)).conclusion := by
  unfold Engine.phases Engine.course
  -- both speak of the same two reports from here on
  simp only [StateT.run_bind, StateT.run_get, pure_bind, rulePhase_run, ← schemaPhase_report]
  have hpolicy : ∀ checked : Report, (p.stopsOnSchemaErrors r.type && !checked.isSuccess) = true ↔
      p.stopsOnSchemaErrors r.type ∧ checked.verdict ≠ .success := by
    intro checked
    rw [Bool.and_eq_true, Bool.not_eq_true', Report.isSuccess, decide_eq_false_iff_not]
  by_cases hstop : p.stopsOnSchemaErrors r.type ∧
      (e.schemaPhase e.inputPath (standIn xs) w.files).report.verdict ≠ .success
  · rw [if_pos ((hpolicy _).2 hstop), if_pos hstop]
    exact ⟨_, rfl, conclusion_withPlugins _ [] _ rfl⟩
  · rw [if_neg fun h => hstop ((hpolicy _).1 h), if_neg hstop]
    exact ⟨_, rfl, conclusion_withPlugins _ [_] _ rfl⟩

/-- Where schemas refuse the request, rules are not looked for. -/
theorem auditIn_refused_schemas {f : AuditError} (hf : f.refusesRequest)
    (hxs : e.resolver.resolve p r.type .schema r.schemas e.workDir w = (.error f, w₁)) :
    e.auditIn p r e.workDir w = (.error f, w₁) := by
  unfold Engine.auditIn
  rw [bind_run_error (resolve_refusing hf hxs)]

theorem auditIn_refused_rules {f : AuditError} (hschemas : Tolerable xs) (hf : f.refusesRequest)
    (hxs : e.resolver.resolve p r.type .schema r.schemas e.workDir w = (xs, w₁))
    (hxr : e.resolver.resolve p r.type .ruleSet r.ruleSets e.workDir w₁ = (.error f, w₂)) :
    e.auditIn p r e.workDir w = (.error f, w₂) := by
  unfold Engine.auditIn
  rw [bind_run_ok (resolve_eq hschemas hxs), bind_run_error (resolve_refusing hf hxr)]

/-- An input that is no document is all there is to report, whatever the checks would say. -/
theorem auditIn_malformed {m : Xml.Malformed}
    (hxs : e.resolver.resolve p r.type .schema r.schemas e.workDir w = (xs, w₁))
    (hxr : e.resolver.resolve p r.type .ruleSet r.ruleSets e.workDir w₁ = (xr, w₂))
    (hschemas : Tolerable xs) (hrules : Tolerable xr) (hm : Document.parse r.input = .error m) :
    e.auditIn p r e.workDir w =
      (.ok ⟨.failure (AuditError.ofMalformed m).message (some (Location.inInput m.line 0)), []⟩,
        w₂) := by
  unfold Engine.auditIn
  rw [bind_run_ok (resolve_eq hschemas hxs), bind_run_ok (resolve_eq hrules hxr), hm]
  rfl

/-- A document that can be stored goes through the phases. -/
theorem auditIn_document {d : Document}
    (hxs : e.resolver.resolve p r.type .schema r.schemas e.workDir w = (xs, w₁))
    (hxr : e.resolver.resolve p r.type .ruleSet r.ruleSets e.workDir w₁ = (xr, w₂))
    (hschemas : Tolerable xs) (hrules : Tolerable xr) (hd : Document.parse r.input = .ok d)
    (hstored : w₂.files.write e.inputPath r.input = .ok t) :
    let done := (e.phases p r e.workDir e.inputPath (standIn xs) (standIn xr) d).run
      (w₂.withFiles t)
    e.auditIn p r e.workDir w = (.ok done.1, done.2) := by
  unfold Engine.auditIn
  rw [bind_run_ok (resolve_eq hschemas hxs), bind_run_ok (resolve_eq hrules hxr), hd]
  have hwrite : w₂.files.write (e.workDir.child inputFileName) r.input = .ok t := hstored
  refine (bind_run_ok (m := get) (a := w₂) rfl).trans ?_
  rw [hwrite]
  rfl

/-- What is done in a working directory that can be made, the directory removed behind it. -/
theorem inWorkDir_eq {m : Path → Task Sheet Audit} {done : Except AuditError Audit}
    (hmade : w.files.makeDirectory e.workDir = .ok t)
    (hdone : m e.workDir (w.withFiles t) = (done, w')) :
    e.inWorkDir m w = (done, e.cleared t w') := by
  unfold Engine.inWorkDir Engine.cleared
  rw [hmade]
  dsimp only
  rw [hdone]
  cases t.locate e.workDir <;> rfl

/-- An audit hands out what it does in its working directory. -/
theorem audit_eq {a : Audit} (htype : p.supports r.type)
    (hmade : w.files.makeDirectory e.workDir = .ok t)
    (hdone : e.auditIn p r e.workDir (w.withFiles t) = (.ok a, w')) :
    e.audit now p r w =
      (.ok { a with report := finish now p r a.report }, e.cleared t w') := by
  unfold Engine.audit
  rw [htype]
  exact bind_run_ok (inWorkDir_eq hmade hdone)

/-- An audit is refused where what it does in its working directory is. -/
theorem audit_refusing {f : AuditError} (htype : p.supports r.type)
    (hmade : w.files.makeDirectory e.workDir = .ok t)
    (hdone : e.auditIn p r e.workDir (w.withFiles t) = (.error f, w')) :
    e.audit now p r w = (.error f, e.cleared t w') := by
  unfold Engine.audit
  rw [htype]
  exact bind_run_error (inWorkDir_eq hmade hdone)

end Engine

/-- **What an audit does** whose type is covered and whose artifacts are looked for in a working
directory, without a fault of the request.

* An input that is no document is reported as one error at its line. No other check, plugin or locale
  would make a difference to that, or to the files.
* A document that can be stored goes through the phases: its reports are those of `Engine.course`, and
  what is handed out sums them. -/
theorem audit_phases {e : Engine Sheet} {p : Profile} {r : Request} {w w₁ w₂ : Workspace Sheet}
    {t : FileTree} {schemas rules : Except AuditError (List Artifact)} (now : Time.Instant)
    (htype : p.supports r.type) (hdir : w.files.makeDirectory e.workDir = .ok t)
    (hschemas : e.resolver.resolve p r.type .schema r.schemas e.workDir (w.withFiles t) =
      (schemas, w₁))
    (hrules : e.resolver.resolve p r.type .ruleSet r.ruleSets e.workDir w₁ = (rules, w₂))
    (hschemas' : Tolerable schemas) (hrules' : Tolerable rules) :
    (∀ m, Document.parse r.input = .error m → ∃ a,
      (∀ locale checkSchemas plugins,
        { e with locale, checkSchemas, plugins }.audit now p r w = (.ok a, e.cleared t w₂)) ∧
      a.report.verdict = .failure ∧ a.report.counters = some ⟨1, 0, 0⟩ ∧ a.report.date.isSome ∧
      a.report.diagnostics = [⟨.error, (AuditError.ofMalformed m).message, none, none,
        some ("XML:" ++ toString m.line ++ ":0")⟩]) ∧
    ∀ d t', Document.parse r.input = .ok d → w₂.files.write e.inputPath r.input = .ok t' → ∃ a,
      e.audit now p r w =
        (.ok a, e.cleared t (e.course p r d schemas rules (w₂.withFiles t')).2) ∧
      a.report.Sums p (e.course p r d schemas rules (w₂.withFiles t')).1 := by
  constructor
  · intro m hm
    let failure := Report.failure (AuditError.ofMalformed m).message
      (some (Location.inInput m.line 0))
    have hsums : (Engine.finish now p r failure).Sums p [failure] := Engine.finish_sums rfl
    refine ⟨⟨Engine.finish now p r failure, []⟩, fun locale checks plugins => ?_,
      hsums.verdict, hsums.counters, hsums.dated, ?_⟩
    · -- what finds the artifacts is the same in both engines, and so is the working directory
      let e' : Engine Sheet := { e with locale, checkSchemas := checks, plugins }
      exact Engine.audit_eq (e := e') htype hdir
        (Engine.auditIn_malformed hschemas hrules hschemas' hrules' hm)
    · rw [hsums.diagnostics]
      have hplace : Location.inInput m.line 0 = "XML:" ++ toString m.line ++ ":0" :=
        @String.append_assoc ("XML:" ++ toString m.line) ":" "0"
      rw [← hplace]
      split <;> rfl
  · intro d t' hd hstored
    obtain ⟨a, hrun, hsays⟩ := Engine.phases_run e p r d schemas rules (w₂.withFiles t')
    have hdone := Engine.auditIn_document hschemas hrules hschemas' hrules' hd hstored
    simp only [hrun] at hdone
    exact ⟨_, Engine.audit_eq htype hdir hdone, Engine.finish_sums hsays⟩

/-- Where the schemas are not to be had and rules are skipped for that, a plugin is still heard. -/
theorem audit_phases_skipped :
    let remark : Report := .ofDiagnostics [⟨.warning, "heard", none, none, none⟩]
    let e : Engine Empty := ⟨⟨.ofText "/cache", ⟨fun _ url => .error (.http url)⟩, 0⟩, .absent, "en",
      Processor.absent.schemaCheck, [fun _ _ _ _ => some remark], .ofText "/tmp"⟩
    let p : Profile := { Profile.usual with
      types := ["t"]
      stopTypes := ["t"]
      schemas := [("t", { ArtifactSource.empty with localPath := some (.ofText "/gone.xsd") })] }
    let r : Request := ⟨"<a/>".toUTF8.toList, "t", [], []⟩
    let w : Workspace Empty := ⟨.start (.empty ["tmp"]), .empty false⟩
    ∃ a w', e.audit ⟨⟨2024, 2, 29⟩, 12, 0, 0, 0⟩ p r w = (.ok a, w') ∧
      a.report.Sums p
        [.failure "IO error: No such file or directory (os error 2)" none, remark] := by
  intro remark e p r w
  let made := w.files.set ["tmp", "xml-conformance-work"] (some .directory)
  let missing : AuditError := .io "No such file or directory (os error 2)"
  have htype : p.supports r.type := rfl
  have hdir : w.files.makeDirectory e.workDir = .ok made := by rfl
  have hschemas : e.resolver.resolve p r.type .schema r.schemas e.workDir (w.withFiles made) =
      (.error missing, w.withFiles made) := by rfl
  have hrules : e.resolver.resolve p r.type .ruleSet r.ruleSets e.workDir (w.withFiles made) =
      (.ok [], w.withFiles made) := by rfl
  have hspared : Tolerable (.error missing) := by
    rintro f ⟨⟩
    rfl
  have hnone : Tolerable (.ok []) := by
    rintro f ⟨⟩
  have hd : Document.parse r.input = .ok (.ofTree (.element 1 ⟨⟨none, "a"⟩, none, [], []⟩ [])) := by
    cbv
  have hstored : (w.withFiles made).files.write e.inputPath r.input =
      .ok (made.set ["tmp", "xml-conformance-work", "input.xml"] (some (.file r.input))) := by rfl
  obtain ⟨a, haudit, hsums⟩ := (audit_phases ⟨⟨2024, 2, 29⟩, 12, 0, 0, 0⟩ htype hdir hschemas hrules
    hspared hnone).2 _ _ hd hstored
  exact ⟨a, _, haudit, hsums⟩

end XmlAudit
