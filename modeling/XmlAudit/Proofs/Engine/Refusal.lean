import XmlAudit.Proofs.Artifact.Resolution
import XmlAudit.Proofs.Engine.Consistency
import XmlAudit.Proofs.Report.Aggregation

/-!
# Requests that are refused

* `Engine.Finds`: what an audit finds of its artifacts.
* `Engine.Refuses`: the faults for which an audit refuses its request.
* `Engine.Troubled`: what else can go wrong with an audit.
* `course_failure`, `Troubled.course`: whatever that is, the phases of the audit fail together.
* `refuses_of_audit`, `audit_of_refuses`: an audit fails for a fault of its request, and no such fault is
  hidden.
* `audit_refuses`: an audit fails exactly for a fault of its request, and reports a failure for
  everything else.
-/

namespace XmlAudit

open Artifact (Kind Supplied checkSupport)
open Files (Path FileTree)
open Xml (Document)

variable {Sheet : Type}

/-- What a request brings along of a kind. -/
def Request.supplied (r : Request) : Kind → List Supplied
  | .schema => r.schemas
  | .ruleSet => r.ruleSets

namespace Engine

variable (e : Engine Sheet) (now : Time.Instant) (p : Profile) (r : Request) (w : Workspace Sheet)

/-- **What an audit finds of its artifacts** in its working directory, and the workspace behind that. -/
def Finds (schemas rules : Except AuditError (List Artifact)) (behind : Workspace Sheet) : Prop :=
  ∃ made w₁, w.files.makeDirectory e.workDir = .ok made ∧
    e.resolver.resolve p r.type .schema r.schemas e.workDir (w.withFiles made) = (schemas, w₁) ∧
    e.resolver.resolve p r.type .ruleSet r.ruleSets e.workDir w₁ = (rules, behind)

/-- **Why a request is refused**: its type is not covered, it brings along what it may not or lacks what
it must, or an archive of schemas comes to light as ambiguous. -/
inductive Refuses : AuditError → Prop
  | unknownType (h : p.supports r.type = false) : Refuses (.unknownType r.type)
  | external {k : Kind} {f : AuditError}
      (h : checkSupport (k.source? p r.type) k (r.supplied k) = .error f) : Refuses f
  | ambiguous {made : FileTree} {d : Path} {n : Nat}
      (hmade : w.files.makeDirectory e.workDir = .ok made)
      (h : e.resolver.Exposes p r.type r.schemas (w.withFiles made) d n) :
      Refuses (.ambiguousArchive d n)

/-- **What else can go wrong with an audit**: its input is no document or cannot be stored, artifacts of
a kind cannot be had, or one of them cannot be used. -/
inductive Troubled : Prop
  | malformed {m : Xml.Malformed} (h : Document.parse r.input = .error m)
  | unstored {schemas rules : Except AuditError (List Artifact)} {behind : Workspace Sheet}
      {fault : Files.Fault} (hfinds : e.Finds p r w schemas rules behind)
      (h : behind.files.write e.inputPath r.input = .error fault)
  | schemas {f : AuditError} {rules : Except AuditError (List Artifact)} {behind : Workspace Sheet}
      (h : e.Finds p r w (.error f) rules behind)
  | rules {schemas : Except AuditError (List Artifact)} {f : AuditError} {behind : Workspace Sheet}
      (h : e.Finds p r w schemas (.error f) behind)
  | schema {d : Document} {artifacts : List Artifact} {rules : Except AuditError (List Artifact)}
      {w' : Workspace Sheet} {a : Artifact} {f : ProcessorFault}
      (hreaches : e.Reaches p r w d (.ok artifacts) rules w') (ha : a ∈ artifacts)
      (h : e.processor.outcome w'.files a.search a.path e.inputPath = .error f)
  | ruleSet {d : Document} {schemas : Except AuditError (List Artifact)}
      {before after : List Artifact} {w' w'' : Workspace Sheet} {a : Artifact} {f : AuditError}
      (hreaches : e.Reaches p r w d schemas (.ok (before ++ a :: after)) w')
      (h : (e.inspector p r d).attempt a ((before.mapM (e.inspector p r d).inspect).run w').2 =
        (.error f, w''))

end Engine

/-! ## Artifacts that cannot be used -/

/-- A schema that cannot be used makes the check against schemas fail. -/
theorem Processor.schemaCheck_failure {k : Processor Sheet} {t : FileTree} {input : Path}
    {schemas : List Artifact} {a : Artifact} {f : ProcessorFault} (ha : a ∈ schemas)
    (h : k.outcome t a.search a.path input = .error f) :
    (k.schemaCheck t input schemas).verdict = .failure := by
  obtain ⟨before, after, rfl⟩ := List.append_of_mem ha
  have hone : (k.checkOne t a.search a.path input).verdict = .failure := by
    unfold Processor.checkOne
    rw [h]
    rfl
  have hbefore : ∀ b ∈ before.map fun a => k.checkOne t a.search a.path input,
      b.verdict ≠ .warning := by
    intro b hb
    obtain ⟨s, -, rfl⟩ := List.mem_map.1 hb
    exact (k.checkOne_consistent t s.search s.path input).verdict_ne_warning
  have hsum := Report.verdict_aggregate_failure
    (after.map fun a => k.checkOne t a.search a.path input) hbefore hone
  simpa [Processor.schemaCheck, Processor.checkAll, Function.comp_def] using hsum

namespace Schematron.Inspector

variable {i : Inspector Sheet} {before : List Artifact} {a : Artifact} {w w' : Workspace Sheet}
  {f : AuditError}

theorem inspect_unusable (h : i.attempt a w = (.error f, w')) :
    (i.inspect a).run w = (.failure f.message none, w') := by
  have hrun : (i.attempt a).run.run w = (.error f, w') := h
  unfold inspect
  rw [StateT.run_bind, hrun]
  rfl

/-- A rule artifact that cannot be used makes the check against rules fail. -/
theorem inspectAll_failure (after : List Artifact)
    (h : i.attempt a ((before.mapM i.inspect).run w).2 = (.error f, w')) :
    ((i.inspectAll (before ++ a :: after)).run w).1.verdict = .failure := by
  have hconsistent := i.mapM_inspect_consistent before w
  cases hbefore : (before.mapM i.inspect).run w with
  | mk reports w₁ =>
  rw [hbefore] at h hconsistent
  have hrest : ((a :: after).mapM i.inspect).run w₁ =
      (.failure f.message none :: ((after.mapM i.inspect).run w').1,
        ((after.mapM i.inspect).run w').2) := by
    rw [List.mapM_cons, StateT.run_bind, inspect_unusable h]
    rfl
  have hall : (((before ++ a :: after).mapM i.inspect).run w).1 =
      reports ++ .failure f.message none :: ((after.mapM i.inspect).run w').1 := by
    rw [List.mapM_append, StateT.run_bind, hbefore]
    change (((a :: after).mapM i.inspect >>= fun rs => pure (reports ++ rs)).run w₁).1 = _
    rw [StateT.run_bind, hrest]
    rfl
  rw [inspectAll_run, hall]
  exact Report.verdict_aggregate_failure _
    (fun b hb => (hconsistent b hb).verdict_ne_warning) rfl

end Schematron.Inspector

/-! ## Audits -/

namespace Engine

variable {e : Engine Sheet} {now : Time.Instant} {p : Profile} {r : Request}
  {w w' w₁ w₂ : Workspace Sheet} {made : FileTree} {xs xr : Except AuditError (List Artifact)}

/-- **The phases of an audit fail together** where the check against schemas fails, or that against
rules would. -/
theorem course_failure (hown : e.checkSchemas = e.processor.schemaCheck) {d : Document}
    (h : (schemaReport (e.checkSchemas w.files e.inputPath) xs).verdict = .failure ∨
      ((ruleReport (e.inspector p r d).inspectAll xr).run w).1.verdict = .failure) :
    (Report.aggregate ((e.course p r d xs xr w).1.map some)).verdict = .failure := by
  have hchecked : (schemaReport (e.checkSchemas w.files e.inputPath) xs).Consistent :=
    schemaReport_consistent fun artifacts _ _ =>
      hown ▸ e.processor.schemaCheck_consistent _ _ artifacts
  unfold course
  dsimp only
  split
  · next hstop =>
    have hfailed := hchecked.verdict_or.resolve_right hstop.2
    exact Report.verdict_aggregate_failure _ (List.forall_mem_nil _) hfailed
  · rcases h with h | h
    · exact Report.verdict_aggregate_failure _ (List.forall_mem_nil _) h
    · exact Report.verdict_aggregate_failure _
        (List.forall_mem_singleton.2 hchecked.verdict_ne_warning) h

/-- What an audit finds of its artifacts, it finds in one way only. -/
theorem Finds.unique {xs' xr' : Except AuditError (List Artifact)} (h : e.Finds p r w xs xr w₂)
    (h' : e.Finds p r w xs' xr' w') : xs' = xs ∧ xr' = xr ∧ w' = w₂ := by
  obtain ⟨made, w₁, hmade, hxs, hxr⟩ := h
  obtain ⟨made', w₁', hmade', hxs', hxr'⟩ := h'
  cases hmade.symm.trans hmade'
  cases hxs.symm.trans hxs'
  cases hxr.symm.trans hxr'
  exact ⟨rfl, rfl, rfl⟩

/-- An audit that comes to its phases found its artifacts and could store its input. -/
theorem Reaches.finds {d : Document} (h : e.Reaches p r w d xs xr w') :
    ∃ behind t, e.Finds p r w xs xr behind ∧ behind.files.write e.inputPath r.input = .ok t ∧
      w' = behind.withFiles t := by
  obtain ⟨made, w₁, w₂, t, hmade, hxs, hxr, hstored, rfl⟩ := h.stored
  exact ⟨w₂, t, ⟨made, w₁, hmade, hxs, hxr⟩, hstored, rfl⟩

theorem Reaches.unique {d d' : Document} {xs' xr' : Except AuditError (List Artifact)}
    (h : e.Reaches p r w d xs xr w₁) (h' : e.Reaches p r w d' xs' xr' w₂) :
    d' = d ∧ xs' = xs ∧ xr' = xr ∧ w₂ = w₁ := by
  obtain ⟨behind, t, hfinds, hstored, rfl⟩ := h.finds
  obtain ⟨behind', t', hfinds', hstored', rfl⟩ := h'.finds
  obtain ⟨rfl, rfl, rfl⟩ := hfinds.unique hfinds'
  cases hstored.symm.trans hstored'
  cases h.document.symm.trans h'.document
  exact ⟨rfl, rfl, rfl, rfl⟩

/-- **Whatever goes wrong with an audit** makes the phases that it comes to a failure. -/
theorem Troubled.course (htroubled : e.Troubled p r w)
    (hown : e.checkSchemas = e.processor.schemaCheck) {d : Document}
    (hreaches : e.Reaches p r w d xs xr w') :
    (Report.aggregate ((e.course p r d xs xr w').1.map some)).verdict = .failure := by
  obtain ⟨behind, t, hfinds, hstored, -⟩ := hreaches.finds
  cases htroubled with
  | malformed h =>
    cases hreaches.document.symm.trans h
  | unstored hfinds' h =>
    obtain ⟨-, -, rfl⟩ := hfinds.unique hfinds'
    rw [h] at hstored
    cases hstored
  | schemas h =>
    obtain ⟨rfl, -, -⟩ := hfinds.unique h
    exact course_failure hown (.inl rfl)
  | rules h =>
    obtain ⟨-, rfl, -⟩ := hfinds.unique h
    exact course_failure hown (.inr rfl)
  | @schema _ artifacts _ _ _ _ hreaches' ha h =>
    obtain ⟨rfl, rfl, rfl, rfl⟩ := hreaches.unique hreaches'
    refine course_failure hown (.inl ?_)
    rw [hown]
    cases artifacts with
    | nil => cases ha
    | cons a artifacts => exact Processor.schemaCheck_failure ha h
  | @ruleSet _ _ before after _ _ _ _ hreaches' h =>
    obtain ⟨rfl, rfl, rfl, rfl⟩ := hreaches.unique hreaches'
    refine course_failure hown (.inr ?_)
    have hsum := Schematron.Inspector.inspectAll_failure after h
    -- either way there are artifacts, so the phase is their inspection
    cases before with
    | nil => exact hsum
    | cons b before => exact hsum

/-- **An audit fails for a fault of its request** and for nothing else. -/
theorem refuses_of_audit {f : AuditError} (hmade : w.files.makeDirectory e.workDir = .ok made)
    (h : e.audit now p r w = (.error f, w')) : e.Refuses p r w f := by
  cases htype : p.supports r.type with
  | false =>
    unfold Engine.audit at h
    rw [htype] at h
    cases h
    exact .unknownType htype
  | true =>
    cases hxs : e.resolver.resolve p r.type .schema r.schemas e.workDir (w.withFiles made) with
    | mk xs w₁ =>
    cases hxr : e.resolver.resolve p r.type .ruleSet r.ruleSets e.workDir w₁ with
    | mk xr w₂ =>
    rcases tolerable_or xs with hschemas | ⟨f', rfl, hf⟩
    swap
    · -- schemas refuse the request
      rw [audit_refusing htype hmade (auditIn_refused_schemas hf hxs)] at h
      cases h
      rcases Artifact.Resolver.resolve_refused hxs hf with hexternal | ⟨-, d, n, rfl, hexposes⟩
      · exact .external (k := .schema) hexternal
      · exact .ambiguous hmade hexposes
    rcases tolerable_or xr with hrules | ⟨f', rfl, hf⟩
    swap
    · -- rules refuse it, but no archive of theirs can be ambiguous
      rw [audit_refusing htype hmade (auditIn_refused_rules hschemas hf hxs hxr)] at h
      cases h
      rcases Artifact.Resolver.resolve_refused hxr hf with hexternal | ⟨hkind, -⟩
      · exact .external (k := .ruleSet) hexternal
      · cases hkind
    -- neither does, so whatever becomes of the input is reported
    obtain ⟨a, w₃, hdone⟩ : ∃ a w₃, e.auditIn p r e.workDir (w.withFiles made) = (.ok a, w₃) := by
      cases hd : Document.parse r.input with
      | error m => exact ⟨_, _, auditIn_malformed hxs hxr hschemas hrules hd⟩
      | ok d =>
        cases hstored : w₂.files.write e.inputPath r.input with
        | error fault => exact ⟨_, _, auditIn_unstored hxs hxr hschemas hrules hd hstored⟩
        | ok t => exact ⟨_, _, auditIn_document hxs hxr hschemas hrules hd hstored⟩
    rw [audit_eq htype hmade hdone] at h
    cases h

/-- **A fault of the request is never hidden**: with one, an audit fails. -/
theorem audit_of_refuses {f : AuditError} (hmade : w.files.makeDirectory e.workDir = .ok made)
    (h : e.Refuses p r w f) : ∃ f' w', e.audit now p r w = (.error f', w') := by
  cases htype : p.supports r.type with
  | false =>
    refine ⟨.unknownType r.type, w, ?_⟩
    unfold Engine.audit
    rw [htype]
    rfl
  | true =>
    suffices hrefused : ∃ f' w', e.auditIn p r e.workDir (w.withFiles made) = (.error f', w') by
      obtain ⟨f', w', hdone⟩ := hrefused
      exact ⟨f', _, audit_refusing htype hmade hdone⟩
    cases hxs : e.resolver.resolve p r.type .schema r.schemas e.workDir (w.withFiles made) with
    | mk xs w₁ =>
    -- schemas come first, and a fault of theirs is the one that is reported
    rcases tolerable_or xs with hschemas | ⟨f', rfl, hf⟩
    swap
    · exact ⟨f', _, auditIn_refused_schemas hf hxs⟩
    cases h with
    | unknownType h =>
      rw [htype] at h
      cases h
    | @external k _ h =>
      have hf := Artifact.refuses_of_checkSupport h
      cases k with
      | schema =>
        cases (Artifact.Resolver.resolve_unsupported h).symm.trans hxs
        exact ⟨f, _, auditIn_refused_schemas hf hxs⟩
      | ruleSet =>
        exact ⟨f, _, auditIn_refused_rules hschemas hf hxs (Artifact.Resolver.resolve_unsupported h)⟩
    | @ambiguous made' d n hmade' h =>
      cases hmade.symm.trans hmade'
      cases hsupport : checkSupport (Kind.schema.source? p r.type) .schema r.schemas with
      | error f' =>
        exact ⟨f', _, auditIn_refused_schemas (Artifact.refuses_of_checkSupport hsupport)
          (Artifact.Resolver.resolve_unsupported hsupport)⟩
      | ok u =>
        obtain ⟨w', hexposed⟩ := Artifact.Resolver.resolve_exposed hsupport h
        exact ⟨_, w', auditIn_refused_schemas rfl hexposed⟩

/-- **Whatever goes wrong with an audit** that is not refused makes its report a failure. -/
theorem Troubled.verdict {a : Audit} (htroubled : e.Troubled p r w)
    (hown : e.checkSchemas = e.processor.schemaCheck) (h : e.audit now p r w = (.ok a, w')) :
    a.report.verdict = .failure := by
  obtain ⟨report, hreport, hcases⟩ := audit_cases h
  have hfailed : report.verdict = .failure := by
    rcases hcases with ⟨description, location, rfl⟩ | ⟨d, schemas, rules, reached, hreached, hsays⟩
    · rfl
    · exact (congrArg Conclusion.verdict hsays).trans (htroubled.course hown hreached)
  rw [hreport, finish]
  cases p.ordered <;> exact hfailed

end Engine

/-- **An audit fails exactly for a fault of its request**, provided that a working directory can be made
and schemas are checked by the processor. Everything else that goes wrong makes its report a failure.

An ambiguous archive is such a fault only where it comes to light, so where the profile's own schemas
are found and the archives before it hold one schema each. -/
theorem audit_refuses {e : Engine Sheet} (now : Time.Instant) {p : Profile} {r : Request}
    {w : Workspace Sheet} {made : FileTree} (hmade : w.files.makeDirectory e.workDir = .ok made)
    (hown : e.checkSchemas = e.processor.schemaCheck) :
    (∀ f w', e.audit now p r w = (.error f, w') → e.Refuses p r w f) ∧
    (∀ f, e.Refuses p r w f → ∃ f' w', e.audit now p r w = (.error f', w')) ∧
    ((¬∃ f, e.Refuses p r w f) → ∃ a w', e.audit now p r w = (.ok a, w') ∧
      (e.Troubled p r w → a.report.verdict = .failure)) := by
  refine ⟨fun f w' => Engine.refuses_of_audit hmade, fun f => Engine.audit_of_refuses hmade, fun h => ?_⟩
  cases haudit : e.audit now p r w with
  | mk outcome w' =>
    cases outcome with
    | error f => exact absurd ⟨f, Engine.refuses_of_audit hmade haudit⟩ h
    | ok a => exact ⟨a, w', rfl, fun htroubled => htroubled.verdict hown haudit⟩

/-- Where a bundled schema is gone, an ambiguous archive does not come to light, and the report is a
failure; rules that may not be brought along are refused all the same, and so is the archive where there
is no bundled schema. -/
theorem audit_refuses_archive :
    let e : Engine Empty := ⟨⟨.ofText "/cache", ⟨fun _ url => .error (.http url)⟩, 0⟩, .absent, "en",
      Processor.absent.schemaCheck, [], .ofText "/tmp"⟩
    let now : Time.Instant := ⟨⟨2024, 2, 29⟩, 12, 0, 0, 0⟩
    let supplied : ArtifactSource := { ArtifactSource.empty with external := .allowed }
    let p : Profile := { Profile.usual with types := ["t"], schemas := [("t", supplied)] }
    let bundling : Profile :=
      { p with schemas := [("t", { supplied with localPath := some (.ofText "/gone.xsd") })] }
    let r : Request := ⟨"<a/>".toUTF8.toList, "t", [.unpacked (.ofText "/archive")], []⟩
    let files := ["b.xsd", "a.xsd"].foldl (fun t name => t.set ["archive", name] (some (.file [])))
      ((FileTree.empty ["tmp"]).set ["archive"] (some .directory))
    let w : Workspace Empty := ⟨.start files, .empty false⟩
    (∃ a w', e.audit now bundling r w = (.ok a, w') ∧ a.report.verdict = .failure) ∧
    (∃ f w', e.audit now bundling { r with ruleSets := [.file (.ofText "/r.sch")] } w =
      (.error f, w')) ∧
    ∃ f w', e.audit now p r w = (.error f, w') := by
  intro e now supplied p bundling r files w
  let made := w.files.set ["tmp", "xml-conformance-work"] (some .directory)
  have hmade : w.files.makeDirectory e.workDir = .ok made := by rfl
  have hgone : e.resolver.own bundling "t" .schema (some (.ofText "/archive"))
      { supplied with localPath := some (.ofText "/gone.xsd") } (w.withFiles made) =
        (.error (.io "No such file or directory (os error 2)"), w.withFiles made) := by rfl
  have hsorted : ["a.xsd", "b.xsd"].mergeSort (fun a b => decide (a ≤ b)) = ["a.xsd", "b.xsd"] :=
    List.mergeSort_of_pairwise (by decide)
  have hnames : (w.withFiles made).files.names (.ofText "/archive") = .ok ["a.xsd", "b.xsd"] :=
    congrArg Except.ok hsorted
  have hlisted : Artifact.filesIn (w.withFiles made).files (.ofText "/archive") =
      .ok [.ofText "/archive/a.xsd", .ofText "/archive/b.xsd"] := by
    unfold Artifact.filesIn
    rw [hnames]
    rfl
  have hspared : ¬∃ f, e.Refuses bundling r w f := by
    rintro ⟨f, h | @⟨k, _, h⟩ | ⟨hmade', source, ours, w', hsource, hown, -⟩⟩
    · cases h
    · cases k <;> cases h
    · cases hmade.symm.trans hmade'
      cases hsource
      cases hgone.symm.trans hown
  have hfinds : e.Finds bundling r w (.error (.io "No such file or directory (os error 2)"))
      (.ok []) (w.withFiles made) := ⟨made, _, hmade, rfl, rfl⟩
  obtain ⟨a, w', haudit, hfailure⟩ := (audit_refuses now hmade rfl).2.2 hspared
  refine ⟨⟨a, w', haudit, hfailure (.schemas hfinds)⟩, ?_, ?_⟩
  · exact (audit_refuses now hmade rfl).2.1 _ (.external (k := .ruleSet) rfl)
  · refine (audit_refuses now hmade rfl).2.1 _ (.ambiguous (d := .ofText "/archive") (n := 2) hmade ?_)
    exact ⟨supplied, [], w.withFiles made, rfl, rfl, [], [], rfl, fun s hs => (nomatch hs),
      _, hlisted, rfl, by decide⟩

end XmlAudit
