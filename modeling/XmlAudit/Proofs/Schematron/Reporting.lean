import XmlAudit.Proofs.Report.Consistency
import XmlAudit.Schematron.Validation

/-!
# Reports of findings

* `listed`: findings in the order in which they are reported.
* `diagnostics_reportOf`: each of them has one diagnostic.
* `consistent_reportOf`: the report of findings describes its diagnostics.
* `severityCount_reportOf`, `exists_error_reportOf_iff`: none of them is lost or repeated on the way, and
  none changes its severity.
* `Diagnostic.bare`: a diagnostic as it stands whatever is shown with it.
* `Inspector.inspectAll_run`: the reports of artifacts, made one.
* `reportOf_listed`: the report of findings, and what of it does not depend on how it is shown.
-/

namespace XmlAudit

/-- A diagnostic without what a profile may have shown with it. -/
def Diagnostic.bare (d : Diagnostic) : Diagnostic :=
  { d with test := none, assertionId := none, location := none }

namespace Schematron

/-- **Findings as they are reported**: the failed assertions in their order, and then the reports in
theirs. -/
def listed (findings : List Finding) : List Finding :=
  findings.filter (·.kind = .failedAssert) ++ findings.filter (·.kind = .successfulReport)

section

variable (k : Location.Locator) (p : Profile) (locale : String) (findings : List Finding)

theorem filter_kind_ne :
    findings.filter (·.kind ≠ .failedAssert) = findings.filter (·.kind = .successfulReport) := by
  refine List.filter_congr fun f _ => ?_
  cases f.kind <;> rfl

theorem listed_perm : (listed findings).Perm findings := by
  have hparts := List.filter_append_perm (fun f : Finding => f.kind = .failedAssert) findings
  rw [listed, ← filter_kind_ne]
  simpa only [decide_not] using hparts

/-- **Each finding has one diagnostic.** -/
theorem diagnostics_reportOf :
    (reportOf k p locale (some findings)).diagnostics =
      (listed findings).map (·.toDiagnostic k p locale) := by
  rw [listed, ← filter_kind_ne]
  rfl

theorem severityCount_reportOf (s : Severity) :
    severityCount (reportOf k p locale (some findings)).diagnostics s =
      .ofNat (findings.countP (·.severity = s)) := by
  rw [severityCount, diagnostics_reportOf, List.countP_map, ← (listed_perm findings).countP_eq]
  rfl

theorem exists_error_reportOf_iff :
    (∃ d ∈ (reportOf k p locale (some findings)).diagnostics, d.severity = .error) ↔
      ∃ f ∈ findings, f.severity = .error := by
  rw [diagnostics_reportOf]
  simp only [List.mem_map, (listed_perm findings).mem_iff]
  constructor
  · rintro ⟨_, ⟨f, hf, rfl⟩, hsev⟩
    exact ⟨f, hf, hsev⟩
  · rintro ⟨f, hf, hsev⟩
    exact ⟨_, ⟨f, hf, rfl⟩, hsev⟩

end

/-- A report of findings is consistent, and so is that of an engine without output. -/
theorem consistent_reportOf (k : Location.Locator) (p : Profile) (locale : String)
    (findings : Option (List Finding)) : (reportOf k p locale findings).Consistent := by
  cases findings with
  | none => exact Report.consistent_failure _ _
  | some findings => exact Report.consistent_ofDiagnostics _

/-- What is shown with a diagnostic is all that a profile or a document have a say in. -/
theorem bare_diagnostics_reportOf (k : Location.Locator) (p : Profile) (locale : String)
    (findings : List Finding) :
    (reportOf k p locale (some findings)).diagnostics.map Diagnostic.bare =
      (listed findings).map fun f => ⟨f.severity, f.description locale, none, none, none⟩ := by
  rw [diagnostics_reportOf, List.map_map]
  rfl

/-- The reports of artifacts are made one, each in the workspace that those before it leave. -/
theorem Inspector.inspectAll_run {Sheet : Type} (i : Inspector Sheet) (artifacts : List Artifact)
    (w : Workspace Sheet) :
    (i.inspectAll artifacts).run w = (.aggregate (((artifacts.mapM i.inspect).run w).1.map some),
      ((artifacts.mapM i.inspect).run w).2) := rfl

/-- **The report of findings.**

* It lists each finding once, failed assertions first and then reports, each in their order, with the
  severity of its flag or else of its role, and with its text in the language of the locale.
* Its counters are those of the severities of the findings, and it is a failure if one of them is an
  error and a success otherwise.
* With another profile it says the same: its verdict and counters are the same, and so are its
  diagnostics but for their tests, the ids of their assertions and their places. -/
theorem reportOf_listed (k : Location.Locator) (locale : String) (findings : List Finding) :
    (listed findings).Perm findings ∧
    (∀ p, let report := reportOf k p locale (some findings)
      List.Forall₂ (fun f d => d.severity = .ofLevel (f.flag.or f.role) ∧
        d.description = f.description locale) (listed findings) report.diagnostics ∧
      report.counters = some ⟨.ofNat (findings.countP (·.severity = .error)),
        .ofNat (findings.countP (·.severity = .warning)),
        .ofNat (findings.countP (·.severity = .info))⟩ ∧
      report.verdict = if ∃ f ∈ findings, f.severity = .error then .failure else .success) ∧
    ∀ p p', let report := reportOf k p locale (some findings)
      let report' := reportOf k p' locale (some findings)
      report.verdict = report'.verdict ∧ report.counters = report'.counters ∧
      report.diagnostics.map Diagnostic.bare = report'.diagnostics.map Diagnostic.bare := by
  have hcounters : ∀ p, (reportOf k p locale (some findings)).counters =
      some ⟨.ofNat (findings.countP (·.severity = .error)),
        .ofNat (findings.countP (·.severity = .warning)),
        .ofNat (findings.countP (·.severity = .info))⟩ := by
    intro p
    rw [← severityCount_reportOf k p locale, ← severityCount_reportOf k p locale,
      ← severityCount_reportOf k p locale, ← Counters.ofDiagnostics_eq]
    rfl
  have hverdict : ∀ p, (reportOf k p locale (some findings)).verdict =
      if ∃ f ∈ findings, f.severity = .error then .failure else .success := by
    intro p
    rw [(consistent_reportOf k p locale (some findings)).verdict]
    simp only [exists_error_reportOf_iff]
  refine ⟨listed_perm findings, fun p => ⟨?_, hcounters p, hverdict p⟩, fun p p' => ⟨?_, ?_, ?_⟩⟩
  · rw [diagnostics_reportOf, List.forall₂_map_right_iff, List.forall₂_same]
    exact fun f _ => ⟨rfl, rfl⟩
  · rw [hverdict, hverdict]
  · rw [hcounters, hcounters]
  · rw [bare_diagnostics_reportOf, bare_diagnostics_reportOf]

end Schematron

end XmlAudit
