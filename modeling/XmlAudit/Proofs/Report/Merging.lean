import Mathlib
import XmlAudit.Report.Basic

/-!
# Reports made one

* `Conclusion`: what a report says: its verdict, its counters and its diagnostics.
* `merge_assoc`, `aggregate_append`: it does not matter in which groups reports are made one.
* `aggregate_induction`: what holds of no report and of one, and stays as others are put in front of it,
  holds of reports made one.
* `diagnostics_aggregate`: the diagnostics of reports made one, none of them lost or repeated.
* `diagnostics_sorted`: sorting puts errors first and then warnings, and leaves each in their order.
* `effectiveCounters_sorted`, `counters_complete`: counters do not depend on that order, and nothing
  but their being stored comes with completion.
-/

namespace XmlAudit

/-! ## Verdicts and counters -/

theorem Report.mergeVerdict_assoc (a b c : Verdict) :
    mergeVerdict (mergeVerdict a b) c = mergeVerdict a (mergeVerdict b c) := by
  cases a <;> cases b <;> cases c <;> rfl

theorem Counters.add_assoc (a b c : Counters) : (a.add b).add c = a.add (b.add c) := by
  simp only [add, UInt64.add_assoc]

theorem Counters.count_comm (c : Counters) (s t : Severity) :
    (c.count s).count t = (c.count t).count s := by
  cases s <;> cases t <;> rfl

/-- **The order of diagnostics does not matter to counters.** -/
theorem Counters.ofDiagnostics_perm {ds ds' : List Diagnostic} (h : ds.Perm ds') :
    ofDiagnostics ds = ofDiagnostics ds' :=
  h.foldl_eq' (fun a _ b _ c => c.count_comm a.severity b.severity) zero

/-! ## Conclusions -/

/-- What a report says. -/
structure Conclusion where
  verdict : Verdict
  counters : Counters
  diagnostics : List Diagnostic

/-- Conclusions made one. -/
def Conclusion.merge (a b : Conclusion) : Conclusion :=
  ⟨Report.mergeVerdict a.verdict b.verdict, a.counters.add b.counters, a.diagnostics ++ b.diagnostics⟩

namespace Report

/-- What a report says. -/
def conclusion (r : Report) : Conclusion := ⟨r.verdict, r.effectiveCounters, r.diagnostics⟩

@[simp] theorem conclusion_merge (a b : Report) :
    (a.merge b).conclusion = a.conclusion.merge b.conclusion := rfl

/-! ## Groups -/

@[simp] theorem effectiveCounters_merge (a b : Report) :
    (a.merge b).effectiveCounters = a.effectiveCounters.add b.effectiveCounters := rfl

theorem merge_assoc (a b c : Report) : (a.merge b).merge c = a.merge (b.merge c) := by
  rw [merge, effectiveCounters_merge, merge.eq_1 a (b.merge c), effectiveCounters_merge]
  simp only [merge, mergeVerdict_assoc, Counters.add_assoc, List.append_assoc, Option.or_assoc]

instance : Std.Associative merge := ⟨merge_assoc⟩

/-- **Reports in two groups** are made one as the groups are. -/
theorem aggregate_append {rs rs' : List (Option Report)} (h : rs ≠ []) (h' : rs' ≠ []) :
    aggregate (rs ++ rs') = (aggregate rs).merge (aggregate rs') := by
  obtain ⟨r, rs, rfl⟩ := List.exists_cons_of_ne_nil h
  obtain ⟨r', rs', rfl⟩ := List.exists_cons_of_ne_nil h'
  simp only [aggregate, List.map_append, List.map_cons, List.cons_append]
  rw [List.foldl_append, List.foldl_cons, List.foldl_assoc]

theorem aggregate_cons (r : Option Report) {rs : List (Option Report)} (h : rs ≠ []) :
    aggregate (r :: rs) = (r.getD emptySuccess).merge (aggregate rs) :=
  aggregate_append (List.cons_ne_nil r []) h

/-- **What holds of reports made one**, as it does of none and of one, and stays as one more is put in
front of them. -/
theorem aggregate_induction {motive : List (Option Report) → Report → Prop}
    (nil : motive [] emptySuccess) (singleton : ∀ r, motive [r] (r.getD emptySuccess))
    (cons : ∀ r rs report, rs ≠ [] → motive rs report →
      motive (r :: rs) ((r.getD emptySuccess).merge report))
    (rs : List (Option Report)) : motive rs (aggregate rs) := by
  induction rs with
  | nil => exact nil
  | cons r rs ih =>
    by_cases hrs : rs = []
    · rw [hrs]
      exact singleton r
    · rw [aggregate_cons r hrs]
      exact cons r rs _ hrs ih

/-- **The diagnostics of reports made one** are those of all of them, in order. -/
theorem diagnostics_aggregate (rs : List (Option Report)) :
    (aggregate rs).diagnostics = rs.flatMap fun r => (r.getD emptySuccess).diagnostics := by
  induction rs using aggregate_induction with
  | nil => rfl
  | singleton r => exact (List.append_nil _).symm
  | cons r rs report _ ih =>
    rw [List.flatMap_cons, ← ih]
    rfl

/-! ## Order -/

/-- Diagnostics with errors first, then warnings, each in their order. -/
def bySeverity (ds : List Diagnostic) : List Diagnostic :=
  ds.filter (·.severity = .error) ++ ds.filter (·.severity = .warning) ++
    ds.filter (·.severity = .info)

/-- Diagnostics that are in order already stay as they are. -/
theorem bySeverity_eq_self {ds : List Diagnostic}
    (h : ds.Pairwise fun a b => a.severity.rank ≤ b.severity.rank) : bySeverity ds = ds := by
  induction ds with
  | nil => rfl
  | cons d ds ih =>
    obtain ⟨hd, hds⟩ := List.pairwise_cons.1 h
    -- nothing graver than the first diagnostic is behind it, so it keeps its place
    have hnone : ∀ s : Severity, s.rank < d.severity.rank → ds.filter (·.severity = s) = [] := by
      intro s hs
      rw [List.filter_eq_nil_iff]
      intro a ha heq
      have hle := hd a ha
      rw [decide_eq_true_eq] at heq
      rw [heq] at hle
      omega
    have hrest := ih hds
    rw [bySeverity] at hrest ⊢
    cases hsev : d.severity with
    | error => simpa [hsev] using hrest
    | warning =>
      rw [hsev] at hnone
      rw [hnone .error (by decide)] at hrest
      simpa [hsev, hnone .error (by decide)] using hrest
    | info =>
      rw [hsev] at hnone
      rw [hnone .error (by decide), hnone .warning (by decide)] at hrest
      simpa [hsev, hnone .error (by decide), hnone .warning (by decide)] using hrest

/-- **Sorting leaves errors, warnings and remarks each in their order.** -/
theorem diagnostics_sorted (r : Report) : r.sorted.diagnostics = bySeverity r.diagnostics := by
  let le (a b : Diagnostic) : Bool := a.severity.rank ≤ b.severity.rank
  have htrans : ∀ a b c, le a b → le b c → le a c := by
    intro a b c hab hbc
    simp only [le, decide_eq_true_eq] at *
    omega
  have htotal : ∀ a b, (le a b || le b a) = true := by
    intro a b
    simp only [le, Bool.or_eq_true, decide_eq_true_eq]
    omega
  have hsorted : (r.diagnostics.mergeSort le).Pairwise
      fun a b => a.severity.rank ≤ b.severity.rank := by
    have := List.pairwise_mergeSort htrans htotal r.diagnostics
    exact this.imp fun h => of_decide_eq_true h
  have hperm : (r.diagnostics.mergeSort le).Perm r.diagnostics := List.mergeSort_perm _ _
  -- what has one severity is sorted before, and so keeps its order
  have hfilter : ∀ s : Severity, (r.diagnostics.mergeSort le).filter (·.severity = s) =
      r.diagnostics.filter (·.severity = s) := by
    intro s
    have hequal : (r.diagnostics.filter (·.severity = s)).Pairwise fun a b => le a b := by
      rw [List.pairwise_filter]
      refine List.pairwise_of_forall fun a b ha hb => ?_
      rw [decide_eq_true_eq] at ha hb
      simp only [le, ha, hb, le_refl, decide_true]
    have hsub := List.sublist_mergeSort htrans htotal hequal List.filter_sublist
    have hsub' := hsub.filter (·.severity = s)
    rw [List.filter_filter] at hsub'
    simp only [Bool.and_self] at hsub'
    exact (hsub'.eq_of_length (hperm.filter _).length_eq.symm).symm
  calc r.sorted.diagnostics = r.diagnostics.mergeSort le := rfl
    _ = bySeverity (r.diagnostics.mergeSort le) := (bySeverity_eq_self hsorted).symm
    _ = bySeverity r.diagnostics := by simp only [bySeverity, hfilter]

theorem effectiveCounters_sorted (r : Report) : r.sorted.effectiveCounters = r.effectiveCounters := by
  have hperm : r.sorted.diagnostics.Perm r.diagnostics := List.mergeSort_perm _ _
  rw [effectiveCounters, effectiveCounters, Counters.ofDiagnostics_perm hperm]
  rfl

/-! ## Completion -/

theorem counters_complete (r : Report) (now : Time.Instant) (input : Option String) :
    (r.complete now input).counters = some r.effectiveCounters := by
  rw [complete, effectiveCounters]
  cases r.counters <;> rfl

theorem isSome_date_complete (r : Report) (now : Time.Instant) (input : Option String) :
    (r.complete now input).date.isSome := by
  rw [complete]
  cases r.date <;> rfl

end Report

end XmlAudit
