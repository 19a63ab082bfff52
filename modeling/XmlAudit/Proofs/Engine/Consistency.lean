import XmlAudit.Proofs.Engine.Phases
import XmlAudit.Proofs.Outcome
import XmlAudit.Proofs.Report.Consistency
import XmlAudit.Proofs.Schematron.Reporting

/-!
# Audits report consistently

* `Task.Returns`: a property of whatever a task returns.
* `Inspector.inspectAll_consistent`: the reports of rules are consistent, whatever the artifacts.
* `Processor.schemaCheck_consistent`: so are those of the processor's own check against schemas.
* `Engine.Hears`: the reports that an audit is given by the check against schemas and by plugins.
* `audit_cases`: the report of an audit is one failure or sums its phases.
* `audit_consistent`: where the reports that an audit is given are consistent, so is its own.
-/

namespace XmlAudit

open Artifact (Kind Supplied)
open Files (Path FileTree)
open Xml (Document)

variable {Sheet : Type}

/-! ## Tasks -/

namespace Task

section

variable {α β : Type} {P : α → Prop} {Q : β → Prop}

/-- **Whatever a task returns has a property**, from any workspace. -/
def Returns (P : α → Prop) (m : Task Sheet α) : Prop := ∀ w a w', m w = (.ok a, w') → P a

theorem returns_throw (fault : AuditError) : Returns P (throw fault : Task Sheet α) := by
  rintro w a w' ⟨⟩

theorem returns_ofFiles {f : FileTree → Except AuditError α} (h : ∀ t a, f t = .ok a → P a) :
    Returns P (ofFiles f : Task Sheet α) := by
  intro w a w' hrun
  exact h w.files a (congrArg Prod.fst hrun)

theorem returns_bind {m : Task Sheet α} {f : α → Task Sheet β} (h : ∀ a, Returns Q (f a)) :
    Returns Q (m >>= f) := by
  intro w b w'' hrun
  cases hm : m w with
  | mk outcome w' =>
    cases outcome with
    | ok a =>
      rw [bind_run_ok hm] at hrun
      exact h a w' b w'' hrun
    | error fault =>
      rw [bind_run_error hm] at hrun
      cases hrun

theorem returns_tryCatch {m : Task Sheet α} {f : AuditError → Task Sheet α} (hm : Returns P m)
    (hf : ∀ fault, Returns P (f fault)) : Returns P (tryCatch m f) := by
  intro w a w'' hrun
  cases h : m w with
  | mk outcome w' =>
    cases outcome with
    | ok a' =>
      rw [tryCatch_run_ok h] at hrun
      cases hrun
      exact hm w a w'' h
    | error fault =>
      rw [tryCatch_run_error h] at hrun
      exact hf fault w' a w'' hrun

end

end Task

/-! ## Rules and schemas -/

namespace Schematron

namespace Inspector

variable (i : Inspector Sheet)

theorem ofRules_consistent {t : FileTree} {a : Artifact} {report : Report}
    (h : i.ofRules t a = .ok report) : report.Consistent := by
  obtain ⟨rules, -, h⟩ := bind_eq_ok.1 h
  obtain ⟨found, -, h⟩ := bind_eq_ok.1 h
  cases h
  exact consistent_reportOf _ _ _ _

theorem ofStylesheet_consistent (a : Artifact) :
    Task.Returns Report.Consistent (i.ofStylesheet a) := by
  refine Task.returns_bind fun compiled => Task.returns_bind fun sheet => ?_
  refine Task.returns_ofFiles fun t report h => ?_
  obtain ⟨output, -, h⟩ := bind_eq_ok.1 h
  obtain ⟨found, -, h⟩ := bind_eq_ok.1 h
  cases h
  exact consistent_reportOf _ _ _ _

/-- Whatever is tried with an artifact, the report is consistent if there is one. -/
theorem attempt_consistent (a : Artifact) : Task.Returns Report.Consistent (i.attempt a) := by
  have hrules : Task.Returns Report.Consistent (Task.ofFiles (i.ofRules · a) : Task Sheet Report) :=
    Task.returns_ofFiles fun t report h => i.ofRules_consistent h
  have hsheet := i.ofStylesheet_consistent a
  unfold Inspector.attempt
  cases RuleMode.of a with
  | compiled => exact hsheet
  | raw => exact hrules
  | rawThenCompiled =>
    refine Task.returns_tryCatch hrules fun fault => ?_
    cases fault with
    | invalidRuleSet => exact Task.returns_tryCatch hsheet fun fault => Task.returns_throw _
    | _ => exact Task.returns_throw _

/-- **The report of an artifact is consistent**, whether the artifact can be used or not. -/
theorem inspect_consistent (a : Artifact) (w : Workspace Sheet) :
    ((i.inspect a).run w).1.Consistent := by
  unfold Inspector.inspect
  rw [StateT.run_bind]
  cases h : (i.attempt a).run.run w with
  | mk outcome w' =>
    cases outcome with
    | ok report => exact i.attempt_consistent a w report w' h
    | error fault => exact Report.consistent_failure _ _

/-- The reports of artifacts are consistent, each in the workspace that those before it leave. -/
theorem mapM_inspect_consistent (artifacts : List Artifact) (w : Workspace Sheet) :
    ∀ report ∈ ((artifacts.mapM i.inspect).run w).1, report.Consistent := by
  induction artifacts generalizing w with
  | nil =>
    intro report hreport
    cases hreport
  | cons a artifacts ih =>
    rw [List.mapM_cons]
    exact List.forall_mem_cons.2 ⟨i.inspect_consistent a w, ih _⟩

theorem inspectAll_consistent (artifacts : List Artifact) (w : Workspace Sheet) :
    ((i.inspectAll artifacts).run w).1.Consistent := by
  rw [inspectAll_run]
  refine Report.consistent_aggregate fun report hreport => ?_
  obtain ⟨_, hmem, ⟨⟩⟩ := List.mem_map.1 hreport
  exact i.mapM_inspect_consistent artifacts w report hmem

end Inspector

end Schematron

namespace Processor

variable (k : Processor Sheet) (t : FileTree)

theorem checkOne_consistent (s : Artifact.SearchPath) (schema input : Path) :
    (k.checkOne t s schema input).Consistent := by
  unfold Processor.checkOne
  split
  · exact Report.consistent_ofDiagnostics _
  · exact Report.consistent_failure _ _

/-- The processor's own check against schemas reports consistently. -/
theorem schemaCheck_consistent (input : Path) (schemas : List Artifact) :
    (k.schemaCheck t input schemas).Consistent := by
  refine Report.consistent_aggregate fun report hreport => ?_
  obtain ⟨s, -, ⟨⟩⟩ := List.mem_map.1 hreport
  exact k.checkOne_consistent t s.2 s.1 input

end Processor

/-! ## Audits -/

theorem schemaReport_consistent {check : List Artifact → Report}
    {found : Except AuditError (List Artifact)}
    (h : ∀ artifacts, found = .ok artifacts → artifacts ≠ [] → (check artifacts).Consistent) :
    (schemaReport check found).Consistent := by
  cases found with
  | error f => exact Report.consistent_failure _ _
  | ok artifacts =>
    cases artifacts with
    | nil => exact Report.consistent_emptySuccess
    | cons a artifacts => exact h _ rfl (List.cons_ne_nil _ _)

theorem ruleReport_consistent {inspect : List Artifact → StateM (Workspace Sheet) Report}
    (h : ∀ artifacts w, ((inspect artifacts).run w).1.Consistent)
    (found : Except AuditError (List Artifact)) (w : Workspace Sheet) :
    ((ruleReport inspect found).run w).1.Consistent := by
  cases found with
  | error f => exact Report.consistent_failure _ _
  | ok artifacts =>
    cases artifacts with
    | nil => exact Report.consistent_emptySuccess
    | cons a artifacts => exact h _ w

namespace Engine

/-- **An audit comes to its phases**: its artifacts are looked for in a new working directory, and
its input, which is a document, is stored there. -/
structure Reaches (e : Engine Sheet) (p : Profile) (r : Request) (w : Workspace Sheet) (d : Document)
    (schemas rules : Except AuditError (List Artifact)) (reached : Workspace Sheet) : Prop where
  document : Document.parse r.input = .ok d
  stored : ∃ made w₁ w₂ t, w.files.makeDirectory e.workDir = .ok made ∧
    e.resolver.resolve p r.type .schema r.schemas e.workDir (w.withFiles made) = (schemas, w₁) ∧
    e.resolver.resolve p r.type .ruleSet r.ruleSets e.workDir w₁ = (rules, w₂) ∧
    w₂.files.write e.inputPath r.input = .ok t ∧ reached = w₂.withFiles t

/-- **The reports that an audit is given**: that of the check against schemas, where there are any,
and those of plugins. -/
inductive Hears (e : Engine Sheet) (p : Profile) (r : Request) (w : Workspace Sheet) : Report → Prop
  | schemas {d : Document} {artifacts : List Artifact}
      {rules : Except AuditError (List Artifact)} {w' : Workspace Sheet}
      (h : e.Reaches p r w d (.ok artifacts) rules w') (hne : artifacts ≠ []) :
      e.Hears p r w (e.checkSchemas w'.files e.inputPath artifacts)
  | plugin {d : Document} {schemas rules : Except AuditError (List Artifact)}
      {w' : Workspace Sheet} {report : Report} (h : e.Reaches p r w d schemas rules w')
      (hreport : report ∈ e.pluginReports r e.inputPath e.workDir
        (e.course p r d schemas rules w').2.files) :
      e.Hears p r w report

variable {e : Engine Sheet} {now : Time.Instant} {p : Profile} {r : Request}
  {w w' w₁ w₂ : Workspace Sheet} {xs xr : Except AuditError (List Artifact)}

/-- The reports of the phases are consistent where those are that the audit is given. -/
theorem course_consistent {d : Document} (h : ∀ report, e.Hears p r w report → report.Consistent)
    (hreached : e.Reaches p r w d xs xr w') :
    ∀ report ∈ (e.course p r d xs xr w').1, report.Consistent := by
  have hchecked : (schemaReport (e.checkSchemas w'.files e.inputPath) xs).Consistent :=
    schemaReport_consistent fun artifacts hxs hne => h _ (.schemas (hxs ▸ hreached) hne)
  have hrules := ruleReport_consistent (e.inspector p r d).inspectAll_consistent xr w'
  have hplugins := fun report hreport => h report (.plugin hreached hreport)
  unfold Engine.course at hplugins ⊢
  by_cases hstop : p.stopsOnSchemaErrors r.type ∧
      (schemaReport (e.checkSchemas w'.files e.inputPath) xs).verdict ≠ .success
  · simp only [if_pos hstop] at hplugins ⊢
    exact List.forall_mem_cons.2 ⟨hchecked, hplugins⟩
  · simp only [if_neg hstop] at hplugins ⊢
    exact List.forall_mem_cons.2 ⟨hchecked, List.forall_mem_cons.2 ⟨hrules, hplugins⟩⟩

/-- A document that cannot be stored is all there is to report. -/
theorem auditIn_unstored {d : Document} {fault : Files.Fault}
    (hxs : e.resolver.resolve p r.type .schema r.schemas e.workDir w = (xs, w₁))
    (hxr : e.resolver.resolve p r.type .ruleSet r.ruleSets e.workDir w₁ = (xr, w₂))
    (hschemas : Tolerable xs) (hrules : Tolerable xr) (hd : Document.parse r.input = .ok d)
    (hstored : w₂.files.write e.inputPath r.input = .error fault) :
    e.auditIn p r e.workDir w =
      (.ok ⟨.failure ("Unable to store the input for validation: " ++ fault.message) none, []⟩,
        w₂) := by
  unfold Engine.auditIn
  rw [bind_run_ok (resolve_eq hschemas hxs), bind_run_ok (resolve_eq hrules hxr), hd]
  have hwrite : w₂.files.write (e.workDir.child inputFileName) r.input = .error fault := hstored
  refine (bind_run_ok (m := get) (a := w₂) rfl).trans ?_
  rw [hwrite]
  rfl

/-- What an audit does in a working directory either refuses the request, or it reports one failure
or what its phases say. -/
theorem auditIn_cases {made : FileTree} {a : Audit}
    (hmade : w.files.makeDirectory e.workDir = .ok made)
    (h : e.auditIn p r e.workDir (w.withFiles made) = (.ok a, w')) :
    (∃ description location, a.report = .failure description location) ∨
    ∃ d schemas rules reached, e.Reaches p r w d schemas rules reached ∧
      a.report.conclusion =
        (Report.aggregate ((e.course p r d schemas rules reached).1.map some)).conclusion := by
  cases hxs : e.resolver.resolve p r.type .schema r.schemas e.workDir (w.withFiles made) with
  | mk xs w₁ =>
  cases hxr : e.resolver.resolve p r.type .ruleSet r.ruleSets e.workDir w₁ with
  | mk xr w₂ =>
  -- where finding artifacts refuses the request, nothing is returned
  rcases tolerable_or xs with hschemas | ⟨f, rfl, hf⟩
  swap
  · rw [auditIn_refused_schemas hf hxs] at h
    cases h
  rcases tolerable_or xr with hrules | ⟨f, rfl, hf⟩
  swap
  · rw [auditIn_refused_rules hschemas hf hxs hxr] at h
    cases h
  cases hd : Document.parse r.input with
  | error m =>
    rw [auditIn_malformed hxs hxr hschemas hrules hd] at h
    cases h
    exact .inl ⟨_, _, rfl⟩
  | ok d =>
    cases hstored : w₂.files.write e.inputPath r.input with
    | error fault =>
      rw [auditIn_unstored hxs hxr hschemas hrules hd hstored] at h
      cases h
      exact .inl ⟨_, _, rfl⟩
    | ok t =>
      obtain ⟨a', hrun, hsays⟩ := phases_run e p r d xs xr (w₂.withFiles t)
      have hdone := auditIn_document hxs hxr hschemas hrules hd hstored
      simp only [hrun] at hdone
      rw [hdone] at h
      cases h
      exact .inr ⟨d, xs, xr, _, ⟨hd, made, w₁, w₂, t, hmade, hxs, hxr, hstored, rfl⟩, hsays⟩

/-- **The report of an audit** is one failure or what its phases say, as it is handed out. -/
theorem audit_cases {a : Audit} (h : e.audit now p r w = (.ok a, w')) :
    ∃ report, a.report = finish now p r report ∧
      ((∃ description location, report = .failure description location) ∨
      ∃ d schemas rules reached, e.Reaches p r w d schemas rules reached ∧
        report.conclusion =
          (Report.aggregate ((e.course p r d schemas rules reached).1.map some)).conclusion) := by
  have htype : p.supports r.type := by
    by_contra htype
    unfold Engine.audit at h
    rw [Bool.not_eq_true] at htype
    rw [htype] at h
    cases h
  -- without a working directory there is one failure; what is done in one is told by `auditIn_cases`
  cases hmade : w.files.makeDirectory e.workDir with
  | error fault =>
    have hdir : e.inWorkDir (e.auditIn p r) w =
        (.ok ⟨.failure ("Unable to create a working directory: " ++ fault.message) none, []⟩, w) := by
      unfold Engine.inWorkDir
      rw [hmade]
    unfold Engine.audit at h
    rw [htype] at h
    have hdone := (bind_run_ok (f := fun a : Audit =>
      (pure { a with report := finish now p r a.report } : Task Sheet Audit)) hdir).symm.trans h
    cases hdone
    exact ⟨_, rfl, .inl ⟨_, _, rfl⟩⟩
  | ok made =>
    cases hdone : e.auditIn p r e.workDir (w.withFiles made) with
    | mk outcome w₁ =>
      cases outcome with
      | ok a' =>
        rw [audit_eq htype hmade hdone] at h
        cases h
        exact ⟨_, rfl, auditIn_cases hmade hdone⟩
      | error fault =>
        rw [audit_refusing htype hmade hdone] at h
        cases h

end Engine

/-- **Every report of an audit describes its diagnostics**, provided that the reports do that the
audit is given by the check against schemas and by plugins. -/
theorem audit_consistent {e : Engine Sheet} {now : Time.Instant} {p : Profile} {r : Request}
    {w w' : Workspace Sheet} {a : Audit}
    (hgiven : ∀ report, e.Hears p r w report → report.Consistent)
    (h : e.audit now p r w = (.ok a, w')) : a.report.Consistent := by
  obtain ⟨report, hreport, hcases⟩ := Engine.audit_cases h
  have hconsistent : report.Consistent := by
    rcases hcases with ⟨description, location, rfl⟩ | ⟨d, schemas, rules, reached, hreached, hsays⟩
    · exact Report.consistent_failure _ _
    · have hcourse := Engine.course_consistent hgiven hreached
      refine Report.Consistent.congr (Report.consistent_aggregate fun report hmem => ?_) hsays
      obtain ⟨_, hreport, ⟨⟩⟩ := List.mem_map.1 hmem
      exact hcourse report hreport
  rw [hreport, Engine.finish]
  cases p.ordered with
  | true => exact hconsistent.sorted.complete _ _
  | false => exact hconsistent.complete _ _

/-- An audit that hears of a warning and of an error, from a plugin, describes both. -/
theorem audit_consistent_heard :
    let remarks : Report := .ofDiagnostics
      [⟨.warning, "odd", none, none, none⟩, ⟨.error, "wrong", none, none, none⟩]
    let e : Engine Empty := ⟨⟨.ofText "/cache", ⟨fun _ url => .error (.http url)⟩, 0⟩, .absent, "en",
      Processor.absent.schemaCheck, [fun _ _ _ _ => none, fun _ _ _ _ => some remarks],
      .ofText "/tmp"⟩
    let p : Profile := { Profile.usual with types := ["t"] }
    let r : Request := ⟨"<a/>".toUTF8.toList, "t", [], []⟩
    let w : Workspace Empty := ⟨.start (.empty ["tmp"]), .empty false⟩
    ∃ a w', e.Hears p r w remarks ∧ (∀ report, e.Hears p r w report → report.Consistent) ∧
      e.audit ⟨⟨2024, 2, 29⟩, 12, 0, 0, 0⟩ p r w = (.ok a, w') ∧ a.report.Consistent := by
  intro remarks e p r w
  let made := w.files.set ["tmp", "xml-conformance-work"] (some .directory)
  have htype : p.supports r.type := rfl
  have hdir : w.files.makeDirectory e.workDir = .ok made := by rfl
  have hschemas : e.resolver.resolve p r.type .schema r.schemas e.workDir (w.withFiles made) =
      (.ok [], w.withFiles made) := by rfl
  have hrules : e.resolver.resolve p r.type .ruleSet r.ruleSets e.workDir (w.withFiles made) =
      (.ok [], w.withFiles made) := by rfl
  have hnone : Tolerable (.ok []) := by
    rintro f ⟨⟩
  have hd : Document.parse r.input = .ok (.ofTree (.element 1 ⟨⟨none, "a"⟩, none, [], []⟩ [])) := by
    cbv
  have hstored : (w.withFiles made).files.write e.inputPath r.input =
      .ok (made.set ["tmp", "xml-conformance-work", "input.xml"] (some (.file r.input))) := by rfl
  have hheard : e.Hears p r w remarks :=
    .plugin ⟨hd, made, _, _, _, hdir, hschemas, hrules, hstored, rfl⟩ List.mem_cons_self
  have hgiven : ∀ report, e.Hears p r w report → report.Consistent := by
    rintro _ (_ | ⟨_, hreport⟩)
    · exact Processor.schemaCheck_consistent _ _ _ _
    · obtain rfl := List.mem_singleton.1 hreport
      exact Report.consistent_ofDiagnostics _
  have haudit : e.audit ⟨⟨2024, 2, 29⟩, 12, 0, 0, 0⟩ p r w = _ :=
    Engine.audit_eq htype hdir (Engine.auditIn_document hschemas hrules hnone hnone hd hstored)
  exact ⟨_, _, hheard, hgiven, haudit, audit_consistent hgiven haudit⟩

end XmlAudit
