import XmlAudit.Proofs.Report.Merging

/-!
# Reports that describe their diagnostics

* `Report.Consistent`: the counters are those of the diagnostics, and the verdict is failure exactly
  where one of them is an error.
* `Conclusion.ofDiagnostics_append`: what diagnostics lead to, they lead to in parts.
* `consistent_ofDiagnostics`, `Consistent.merge`, `consistent_aggregate`, `Consistent.sorted`,
  `Consistent.complete`: reports that are made of diagnostics or of consistent reports are consistent.
-/

namespace XmlAudit

/-! ## Counters -/

/-- How many diagnostics have a severity, as a word. -/
def severityCount (ds : List Diagnostic) (s : Severity) : UInt64 :=
  UInt64.ofNat (ds.countP (·.severity = s))

theorem severityCount_cons (d : Diagnostic) (ds : List Diagnostic) (s : Severity) :
    severityCount (d :: ds) s =
      severityCount ds s + if d.severity = s then 1 else 0 := by
  rw [severityCount, List.countP_cons, UInt64.ofNat_add]
  by_cases h : d.severity = s <;> simp [h, severityCount]

/-- **The counters of diagnostics** count each severity. -/
theorem Counters.ofDiagnostics_eq (ds : List Diagnostic) :
    ofDiagnostics ds =
      ⟨severityCount ds .error, severityCount ds .warning, severityCount ds .info⟩ := by
  have hfold : ∀ (ds : List Diagnostic) (c : Counters),
      ds.foldl (fun c d => c.count d.severity) c =
        ⟨c.errors + severityCount ds .error, c.warnings + severityCount ds .warning,
          c.infos + severityCount ds .info⟩ := by
    intro ds
    induction ds with
    | nil => simp [severityCount]
    | cons d ds ih =>
      intro c
      rw [List.foldl_cons, ih]
      cases h : d.severity <;>
        simp [count, severityCount_cons, h, UInt64.add_assoc, UInt64.add_comm 1]
  rw [ofDiagnostics, hfold]
  simp [zero]

/-- The counters of diagnostics in two parts are added. -/
theorem Counters.ofDiagnostics_append (ds ds' : List Diagnostic) :
    ofDiagnostics (ds ++ ds') = (ofDiagnostics ds).add (ofDiagnostics ds') := by
  simp only [ofDiagnostics_eq, severityCount, List.countP_append, UInt64.ofNat_add, add]

/-! ## Verdicts -/

theorem Report.verdictOf_append (ds ds' : List Diagnostic) :
    verdictOf (ds ++ ds') = mergeVerdict (verdictOf ds) (verdictOf ds') := by
  rw [verdictOf, verdictOf, verdictOf, List.any_append]
  cases ds.any (·.severity = .error) <;> cases ds'.any (·.severity = .error) <;> rfl

theorem Report.verdictOf_perm {ds ds' : List Diagnostic} (h : ds.Perm ds') :
    verdictOf ds = verdictOf ds' := by
  rw [verdictOf, verdictOf, h.any_eq]

/-! ## Consistency -/

/-- What diagnostics lead to. -/
def Conclusion.ofDiagnostics (ds : List Diagnostic) : Conclusion :=
  ⟨Report.verdictOf ds, .ofDiagnostics ds, ds⟩

/-- **Diagnostics in two parts** lead to what the parts lead to. -/
theorem Conclusion.ofDiagnostics_append (ds ds' : List Diagnostic) :
    ofDiagnostics (ds ++ ds') = (ofDiagnostics ds).merge (ofDiagnostics ds') := by
  rw [ofDiagnostics, Report.verdictOf_append, Counters.ofDiagnostics_append]
  rfl

namespace Report

/-- **A report that describes its diagnostics**: it counts each severity, and it is a failure if one
of them is an error and a success otherwise. -/
structure Consistent (r : Report) : Prop where
  counters : r.effectiveCounters = ⟨severityCount r.diagnostics .error,
    severityCount r.diagnostics .warning, severityCount r.diagnostics .info⟩
  verdict : r.verdict = if ∃ d ∈ r.diagnostics, d.severity = .error then .failure else .success

/-- A consistent report says what its diagnostics lead to. -/
theorem consistent_iff {r : Report} :
    r.Consistent ↔ r.conclusion = .ofDiagnostics r.diagnostics := by
  have hverdict : verdictOf r.diagnostics =
      if ∃ d ∈ r.diagnostics, d.severity = .error then .failure else .success := by
    simp only [verdictOf, List.any_eq_true, decide_eq_true_eq]
  rw [conclusion, Conclusion.ofDiagnostics, Conclusion.mk.injEq, hverdict, Counters.ofDiagnostics_eq]
  exact ⟨fun h => ⟨h.verdict, h.counters, rfl⟩, fun h => ⟨h.2.1, h.1⟩⟩

instance {r : Report} : Decidable r.Consistent :=
  decidable_of_iff
    (r.effectiveCounters = ⟨severityCount r.diagnostics .error,
        severityCount r.diagnostics .warning, severityCount r.diagnostics .info⟩ ∧
      r.verdict = if ∃ d ∈ r.diagnostics, d.severity = .error then .failure else .success)
    ⟨fun h => ⟨h.1, h.2⟩, fun h => ⟨h.counters, h.verdict⟩⟩

section

variable {a b : Report}

/-- A consistent report is a failure or a success. -/
theorem Consistent.verdict_or (h : a.Consistent) : a.verdict = .failure ∨ a.verdict = .success := by
  rw [h.verdict]
  split
  · exact .inl rfl
  · exact .inr rfl

theorem Consistent.verdict_ne_warning (h : a.Consistent) : a.verdict ≠ .warning := by
  rcases h.verdict_or with h | h <;> simp [h]

/-- Only what a report says matters to its consistency. -/
theorem Consistent.congr (hb : b.Consistent) (h : a.conclusion = b.conclusion) : a.Consistent := by
  have hdiagnostics : a.diagnostics = b.diagnostics := congrArg Conclusion.diagnostics h
  rw [consistent_iff, h, hdiagnostics]
  exact consistent_iff.1 hb

theorem consistent_emptySuccess : emptySuccess.Consistent := consistent_iff.2 rfl

/-- **A report made of diagnostics** describes them. -/
theorem consistent_ofDiagnostics (ds : List Diagnostic) : (ofDiagnostics ds).Consistent :=
  consistent_iff.2 rfl

theorem consistent_failure (description : String) (location : Option String) :
    (failure description location).Consistent :=
  consistent_ofDiagnostics _

/-- **Consistent reports made one** are consistent. -/
theorem Consistent.merge (ha : a.Consistent) (hb : b.Consistent) : (a.merge b).Consistent := by
  have hdiagnostics : (a.merge b).diagnostics = a.diagnostics ++ b.diagnostics := rfl
  rw [consistent_iff, conclusion_merge, consistent_iff.1 ha, consistent_iff.1 hb, hdiagnostics,
    Conclusion.ofDiagnostics_append]

theorem consistent_aggregate {reports : List (Option Report)}
    (h : ∀ report, some report ∈ reports → report.Consistent) : (aggregate reports).Consistent := by
  have hstands : ∀ r ∈ reports, (r.getD emptySuccess).Consistent := by
    intro r hr
    cases r with
    | none => exact consistent_emptySuccess
    | some report => exact h report hr
  clear h
  induction reports using aggregate_induction with
  | nil => exact consistent_emptySuccess
  | singleton r => exact hstands r List.mem_cons_self
  | cons r rs report _ ih =>
    obtain ⟨hr, hrs⟩ := List.forall_mem_cons.1 hstands
    exact hr.merge (ih hrs)

/-- **Sorting keeps a report consistent**, as counters and verdict do not depend on the order. -/
theorem Consistent.sorted (h : a.Consistent) : a.sorted.Consistent := by
  have hperm : a.sorted.diagnostics.Perm a.diagnostics := List.mergeSort_perm _ _
  obtain ⟨hverdict, hcounters, -⟩ := Conclusion.mk.inj (consistent_iff.1 h)
  rw [consistent_iff, conclusion, effectiveCounters_sorted, hcounters, Conclusion.ofDiagnostics,
    Counters.ofDiagnostics_perm hperm, verdictOf_perm hperm, ← hverdict]
  rfl

/-- **Completion keeps a report consistent**, as it says the same. -/
theorem Consistent.complete (h : a.Consistent) (now : Time.Instant) (input : Option String) :
    (a.complete now input).Consistent := by
  refine h.congr ?_
  have hcounters : (a.complete now input).effectiveCounters = a.effectiveCounters := by
    rw [effectiveCounters, counters_complete]
    rfl
  rw [conclusion, hcounters]
  rfl

end

end Report

end XmlAudit
