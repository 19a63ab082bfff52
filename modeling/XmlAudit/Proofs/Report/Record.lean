import XmlAudit.Proofs.Data.JsonText
import XmlAudit.Proofs.Time.Instant
import XmlAudit.Report.Record

/-!
# Reports read back from JSON

* `record?_table`: a table gives the values of its keys, where these are known and differ.
* `Counters.ofData?_toData`, `Diagnostic.ofData?_toData`, `Report.ofData?_toData`: records are read back
  as what they were made of.
* `Report.toJson_reads_back`: so is the JSON text of a report.
-/

namespace XmlAudit

open Data (record? text? choice? list? natBelow?)

/-! ## Records -/

theorem Data.haveReadable_nil : Data.haveReadable [] = true := by rw [Data.haveReadable]

/-- **A table gives the values of its keys**, where these are known ones in their order. -/
theorem record?_table {n : Notation} {keys : List String} {entries : List (String × Data)}
    (hkeys : keys.Nodup) (h : (entries.map (·.1)).Sublist keys) :
    record? n keys (.table entries) = some (keys.map fun k => entries.lookup k) := by
  have honce : (keys.all fun k => (entries.filter (·.1 = k)).length ≤ 1) = true := by
    rw [List.all_eq_true]
    intro k hk
    have hcount : (entries.map (·.1)).count k ≤ 1 := List.nodup_iff_count_le_one.1 (h.nodup hkeys) k
    have hlength : (entries.filter (·.1 = k)).length = (entries.map (·.1)).count k := by
      rw [List.count, List.countP_map, List.countP_eq_length_filter]
      rfl
    rw [decide_eq_true_iff, hlength]
    exact hcount
  have hknown : (entries.filter fun e => !keys.contains e.1) = [] := by
    rw [List.filter_eq_nil_iff]
    intro e he
    have hmem : e.1 ∈ keys := h.subset (List.mem_map_of_mem he)
    simpa using hmem
  rw [record?, honce, hknown, Data.haveReadable_nil]
  rfl

section

variable {α : Type} {key key' : String} {write : α → Data} {read : Data → Option α}

theorem lookup_optionalEntry_self (value : Option α) :
    (optionalEntry key write value).lookup key = value.map write := by
  cases value <;> simp [optionalEntry]

theorem lookup_optionalEntry_ne (h : key' ≠ key) (value : Option α) :
    (optionalEntry key write value).lookup key' = none := by
  have hne : (key' == key) = false := beq_eq_false_iff_ne.2 h
  cases value <;> simp [optionalEntry, List.lookup_cons, hne]

theorem keys_optionalEntry (value : Option α) :
    ((optionalEntry key write value).map (·.1)).Sublist [key] := by
  cases value with
  | none => exact List.nil_sublist _
  | some a => exact List.Sublist.refl _

/-- **A value that may be missing is read back**, unless it is written as none. -/
theorem optional?_map {value : Option α} (hread : ∀ a ∈ value, read (write a) = some a)
    (hnull : ∀ a, write a ≠ .null) : optional? read (value.map write) = some value := by
  cases value with
  | none => rfl
  | some a =>
    rw [Option.map_some, optional?]
    · rw [hread a rfl]
      rfl
    · exact hnull a

end

/-! ## What is read back -/

theorem Severity.ofName?_name (s : Severity) : ofName? s.name = some s := by cases s <;> rfl

theorem Verdict.ofName?_name (v : Verdict) : ofName? v.name = some v := by cases v <;> rfl

theorem natBelow?_integer {bound n : Nat} (h : n < bound) :
    natBelow? bound (.integer n) = some n := by
  rw [natBelow?, if_pos ⟨Int.natCast_nonneg n, Int.ofNat_lt.2 h⟩, Int.toNat_natCast]

theorem word?_wordData (n : UInt64) : word? (wordData n) = some n := by
  have hread : natBelow? UInt64.size (wordData n) = some n.toNat :=
    natBelow?_integer n.toNat_lt_size
  unfold word?
  rw [hread]
  exact congrArg some UInt64.ofNat_toNat

theorem Counters.ofData?_eq {d : Data} {e w i : Option Data}
    (h : record? .json ["errors", "warnings", "infos"] d = some [e, w, i]) :
    ofData? d = (required? word? e).bind fun e => (required? word? w).bind fun w =>
      (required? word? i).bind fun i => some ⟨e, w, i⟩ := by
  unfold ofData?
  rw [h]
  rfl

theorem Counters.ofData?_toData (c : Counters) : ofData? c.toData = some c := by
  have hread : ∀ n : UInt64, required? word? (some (wordData n)) = some n := by
    intro n
    rw [required?, Option.bind_some, word?_wordData]
  have hrecord : record? .json ["errors", "warnings", "infos"] c.toData =
      some [some (wordData c.errors), some (wordData c.warnings), some (wordData c.infos)] :=
    record?_table (by decide) (List.Sublist.refl _)
  rw [ofData?_eq hrecord, hread, hread, hread]
  rfl

theorem optional?_text (value : Option String) : optional? text? (value.map .text) = some value :=
  optional?_map (fun _ _ => rfl) (fun _ => by rintro ⟨⟩)

/-- **A diagnostic is read back**, whatever of it is missing. -/
theorem Diagnostic.ofData?_toData (d : Diagnostic) : ofData? d.toData = some d := by
  -- whatever is missing, the entries stand in the order of the keys
  have hkeys : ((("severity", Data.text d.severity.name) :: ("description", .text d.description) ::
      (optionalEntry "test" .text d.test ++ (optionalEntry "assertion_id" .text d.assertionId ++
        optionalEntry "location" .text d.location))).map (·.1)).Sublist
      ["severity", "description", "test", "assertion_id", "location"] := by
    simp only [List.map_cons, List.map_append]
    exact (((keys_optionalEntry _).append
      ((keys_optionalEntry _).append (keys_optionalEntry _))).cons_cons _).cons_cons _
  unfold ofData? toData
  simp only [List.cons_append, List.nil_append, List.append_assoc]
  rw [record?_table (by decide) hkeys]
  simp [List.lookup_cons, List.lookup_append, lookup_optionalEntry_self, lookup_optionalEntry_ne,
    required?, choice?, Severity.ofName?_name, text?, optional?_text]

/-- **A report is read back**, whatever of it is missing. -/
theorem Report.ofData?_toData (r : Report) (h : ∀ t ∈ r.date, t.isValid) :
    ofData? r.toData = some r := by
  have hkeys : ((("verdict", Data.text r.verdict.name) ::
      (optionalEntry "date" (fun t => .text t.renderShort) r.date ++
        (optionalEntry "counters" Counters.toData r.counters ++
          ("diagnostics", .list (r.diagnostics.map Diagnostic.toData)) ::
            optionalEntry "context" .text r.context))).map (·.1)).Sublist
      ["verdict", "date", "counters", "diagnostics", "context"] := by
    simp only [List.map_cons, List.map_append]
    exact ((keys_optionalEntry _).append ((keys_optionalEntry _).append
      ((keys_optionalEntry _).cons_cons _))).cons_cons _
  have hdate : optional? (fun v => (text? v).bind Time.Instant.parse?)
      (r.date.map fun t => .text t.renderShort) = some r.date := by
    refine optional?_map (fun t ht => ?_) (fun _ => by rintro ⟨⟩)
    rw [text?, Option.bind_some, Time.Instant.parse?_renderShort (h t ht)]
  have hcounters : optional? Counters.ofData? (r.counters.map Counters.toData) = some r.counters :=
    optional?_map (fun c _ => c.ofData?_toData) (fun _ => by rintro ⟨⟩)
  have hdiagnostics : list? Diagnostic.ofData? (.list (r.diagnostics.map Diagnostic.toData)) =
      some r.diagnostics := mapM_map_eq_some fun d _ => d.ofData?_toData
  unfold ofData? toData
  simp only [List.cons_append, List.nil_append, List.append_assoc]
  rw [record?_table (by decide) hkeys]
  simp [List.lookup_cons, List.lookup_append, lookup_optionalEntry_self, lookup_optionalEntry_ne,
    required?, choice?, Verdict.ofName?_name, withDefault?, hdate, hcounters, hdiagnostics,
    optional?_text]

/-! ## What JSON tells -/

open Data (fits allFit_iff entriesFit_iff)

theorem fits_optionalEntry {α : Type} {key : String} {write : α → Data} {value : Option α}
    {depth : Nat} (h : ∀ a ∈ value, (write a).fits depth) :
    ∀ e ∈ optionalEntry key write value, e.2.fits depth := by
  intro e he
  obtain ⟨a, ha, rfl⟩ : ∃ a ∈ value, (key, write a) = e := by simpa [optionalEntry] using he
  exact h a ha

theorem fits_text (depth : Nat) (s : String) : (Data.text s).fits depth := rfl

theorem fits_wordData (depth : Nat) (n : UInt64) : (wordData n).fits depth := by
  have hhigh : n.toNat < 2 ^ 64 := n.toNat_lt_size
  rw [wordData, fits, Bool.and_eq_true, decide_eq_true_iff, decide_eq_true_iff]
  omega

theorem Counters.fits_toData (c : Counters) (depth : Nat) : c.toData.fits (depth + 1) := by
  rw [toData, fits, Bool.and_eq_true, entriesFit_iff]
  simp [fits_wordData]

theorem fits_optionalText (key : String) (value : Option String) (depth : Nat) :
    ∀ e ∈ optionalEntry key Data.text value, e.2.fits depth :=
  fits_optionalEntry fun s _ => fits_text depth s

theorem Diagnostic.fits_toData (d : Diagnostic) (depth : Nat) : d.toData.fits (depth + 1) := by
  rw [toData, fits, Bool.and_eq_true, entriesFit_iff]
  refine ⟨by simp, ?_⟩
  simp only [List.forall_mem_append, List.forall_mem_cons, Nat.add_sub_cancel]
  exact ⟨⟨⟨⟨fits_text _ _, fits_text _ _, List.forall_mem_nil _⟩, fits_optionalText _ _ _⟩,
    fits_optionalText _ _ _⟩, fits_optionalText _ _ _⟩

theorem Report.fits_toData (r : Report) (depth : Nat) : r.toData.fits (depth + 3) := by
  have hdiagnostics : (Data.list (r.diagnostics.map Diagnostic.toData)).fits (depth + 2) := by
    rw [fits, Bool.and_eq_true, allFit_iff]
    refine ⟨by simp, fun x hx => ?_⟩
    obtain ⟨d, -, rfl⟩ := List.mem_map.1 hx
    exact d.fits_toData depth
  rw [toData, fits, Bool.and_eq_true, entriesFit_iff]
  refine ⟨by simp, ?_⟩
  simp only [List.forall_mem_append, List.forall_mem_cons]
  exact ⟨⟨⟨⟨⟨fits_text _ _, List.forall_mem_nil _⟩, fits_optionalEntry fun t _ => fits_text _ _⟩,
    fits_optionalEntry fun c _ => c.fits_toData _⟩, hdiagnostics, List.forall_mem_nil _⟩,
    fits_optionalText _ _ _⟩

namespace Report

/-- **The JSON text of a report reads back as that report**, whatever of it is missing and whatever
its texts hold; its date, if there is one, is one that exists. -/
theorem ofJson?_toJson (r : Report) (h : ∀ t ∈ r.date, t.isValid) : ofJson? r.toJson = some r := by
  have hread : Data.parseJson? r.toJson = some r.toData :=
    Data.parseJson?_renderJson (r.fits_toData 124)
  rw [ofJson?, hread, Option.bind_some, r.ofData?_toData h]

/-- Quotes, a line break, a control character and a character beyond 16 bits; a date with a leap second
before the year 0; a diagnostic without a test. -/
theorem ofJson?_toJson_escaped :
    let date : Time.Instant := ⟨⟨-44, 3, 15⟩, 23, 59, 60, 120000000⟩
    let found : Diagnostic := ⟨.warning, "a \"b\"\n\x01😀\\", none, some "R-1", some "/a[1]"⟩
    let r : Report := ⟨.undefined, some date, some ⟨0, 1, 0⟩, [found], none⟩
    (∀ t ∈ r.date, t.isValid) ∧ ofJson? r.toJson = some r := by
  intro date found r
  have hdate : ∀ t ∈ r.date, t.isValid := by
    rintro t ⟨⟩
    decide
  exact ⟨hdate, ofJson?_toJson r hdate⟩

end Report

end XmlAudit
