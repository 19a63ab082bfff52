import XmlAudit.Proofs.Report.Merging
import XmlAudit.Proofs.Schematron.Reporting
import XmlAudit.Proofs.Schematron.Stopping

/-!
# Rule files that cannot be used

* `Inspector.reported`: the diagnostics of a document and artifacts.
* `Inspector.Contributes`: the diagnostics of a rule file, told without those of other files.
* `diagnostics_inspect_iff`: the report of a rule file has what the file contributes.
* `inspectAll_rules`: rule files are used one by one, and leave nothing behind.
* `inspectAll_isolated`: a rule file that cannot be used spoils only its own part.
-/

namespace XmlAudit.Schematron.Inspector

open Files (Path FileTree)
open Xml (Document)

variable {Sheet : Type} (i : Inspector Sheet)

/-- The diagnostics of a document and artifacts. -/
def reported (w : Workspace Sheet) (artifacts : List Artifact) : List Diagnostic :=
  ((i.inspectAll artifacts).run w).1.diagnostics

/-- **What a rule file contributes.** If it cannot be read, or its rules stop, that is one error without
a place, whatever was found by then; and else it is what its rules find. -/
inductive Contributes (t : FileTree) (a : Artifact) : List Diagnostic → Prop
  | unread {e} (h : RuleSet.load ⟨t, a.search⟩ a.path = .error e) :
    Contributes t a [⟨.error, e.message, none, none, none⟩]
  | stopped {rules partly f} (hload : RuleSet.load ⟨t, a.search⟩ a.path = .ok rules)
    (h : Stops i.document rules partly f) :
    Contributes t a [⟨.error, f.message, none, none, none⟩]
  | found {rules findings} (hload : RuleSet.load ⟨t, a.search⟩ a.path = .ok rules)
    (h : Finds i.document rules findings) :
    Contributes t a ((listed findings).map (·.toDiagnostic ⟨i.document, true⟩ i.profile i.locale))

variable {i} {a : Artifact} {artifacts : List Artifact} {ds : List Diagnostic} {w : Workspace Sheet}

/-! ## One file -/

/-- The report of a rule file, or of the error that there is with it. -/
theorem inspect_run (ha : a.extension? = some "sch") :
    (i.inspect a).run w =
      (match i.ofRules w.files a with
        | .ok report => report
        | .error e => .failure e.message none, w) := by
  have hmode : RuleMode.of a = .raw := by simp only [RuleMode.of, ha]
  have hattempt : (i.attempt a).run.run w = (i.ofRules w.files a, w) := by
    rw [attempt, hmode]
    rfl
  rw [inspect, StateT.run_bind, hattempt]
  cases i.ofRules w.files a <;> rfl

theorem exists_contributes (t : FileTree) (a : Artifact) : ∃ ds, i.Contributes t a ds := by
  cases hload : RuleSet.load ⟨t, a.search⟩ a.path with
  | error e => exact ⟨_, .unread hload⟩
  | ok rules =>
    cases hfound : rules.findings i.document with
    | error f =>
      obtain ⟨partly, hstops⟩ := exists_stops_iff.2 hfound
      exact ⟨_, .stopped hload hstops⟩
    | ok findings => exact ⟨_, .found hload (RuleSet.findings_eq_ok.1 hfound)⟩

theorem Contributes.inspect (h : i.Contributes w.files a ds) (ha : a.extension? = some "sch") :
    ((i.inspect a).run w).1.diagnostics = ds := by
  rw [inspect_run ha]
  cases h with
  | unread hload =>
    have hrules : i.ofRules w.files a = .error _ := bind_eq_error.2 (.inl hload)
    rw [hrules]
    rfl
  | @stopped rules partly f hload h =>
    have hrules : i.ofRules w.files a = .error (.pathExpression f) := by
      refine bind_eq_error.2 (.inr ⟨rules, hload, bind_eq_error.2 (.inl ?_)⟩)
      rw [exists_stops_iff.1 ⟨partly, h⟩]
      rfl
    rw [hrules]
    rfl
  | @found rules findings hload h =>
    have hrules : i.ofRules w.files a =
        .ok (reportOf ⟨i.document, true⟩ i.profile i.locale (some findings)) := by
      refine bind_eq_ok.2 ⟨rules, hload, bind_eq_ok.2 ⟨findings, ?_, rfl⟩⟩
      exact mapError_eq_ok.2 (RuleSet.findings_eq_ok.2 h)
    rw [hrules]
    exact diagnostics_reportOf _ _ _ _

/-- **The report of a rule file** has what the file contributes and nothing else. -/
theorem diagnostics_inspect_iff (ha : a.extension? = some "sch") :
    ((i.inspect a).run w).1.diagnostics = ds ↔ i.Contributes w.files a ds := by
  constructor
  · rintro rfl
    obtain ⟨ds, h⟩ := exists_contributes (i := i) w.files a
    rwa [h.inspect ha]
  · exact fun h => h.inspect ha

/-! ## Several files -/

/-- **Rule files are used one by one**: each sees the same workspace, and leaves it as it is. -/
theorem inspectAll_rules (h : ∀ a ∈ artifacts, a.extension? = some "sch") :
    (i.inspectAll artifacts).run w =
      (.aggregate (artifacts.map fun a => some ((i.inspect a).run w).1), w) := by
  have hsame : ∀ a ∈ artifacts, ((i.inspect a).run w).2 = w := by
    intro a ha
    rw [inspect_run (h a ha)]
  rw [inspectAll_run, mapM_run_unchanged hsame, List.map_map]
  rfl

theorem reported_eq_flatMap (h : ∀ a ∈ artifacts, a.extension? = some "sch") :
    i.reported w artifacts = artifacts.flatMap fun a => ((i.inspect a).run w).1.diagnostics := by
  rw [reported, inspectAll_rules h, Report.diagnostics_aggregate, List.flatMap_map]
  rfl

theorem reported_singleton (ha : a.extension? = some "sch") :
    i.reported w [a] = ((i.inspect a).run w).1.diagnostics := by
  rw [reported_eq_flatMap (List.forall_mem_singleton.2 ha)]
  exact List.append_nil _

/-- **A rule file that cannot be used spoils only its own part.**

* Rule files leave the workspace as it is, and what is reported for them is, file by file and in order,
  what is reported for each alone.
* For one alone, that is what it contributes: one error without a place if it cannot be read or its
  rules stop, even if they have found something by then.
* One file in place of another changes nothing of what is reported for those before it and behind it. -/
theorem inspectAll_isolated (i : Inspector Sheet) (w : Workspace Sheet) :
    (∀ artifacts : List Artifact, (∀ a ∈ artifacts, a.extension? = some "sch") →
      ((i.inspectAll artifacts).run w).2 = w ∧
      i.reported w artifacts = artifacts.flatMap fun a => i.reported w [a]) ∧
    (∀ a : Artifact, a.extension? = some "sch" →
      ∀ ds, i.reported w [a] = ds ↔ i.Contributes w.files a ds) ∧
    ∀ before after : List Artifact, (∀ a ∈ before ++ after, a.extension? = some "sch") →
      ∀ a : Artifact, a.extension? = some "sch" →
        i.reported w (before ++ a :: after) =
          i.reported w before ++ i.reported w [a] ++ i.reported w after := by
  have hall : ∀ artifacts : List Artifact, (∀ a ∈ artifacts, a.extension? = some "sch") →
      i.reported w artifacts = artifacts.flatMap fun a => i.reported w [a] := by
    intro artifacts h
    rw [reported_eq_flatMap h]
    exact List.flatMap_congr fun a ha => (reported_singleton (h a ha)).symm
  refine ⟨fun artifacts h => ⟨?_, hall artifacts h⟩, fun a ha ds => ?_, ?_⟩
  · rw [inspectAll_rules h]
  · rw [reported_singleton ha, diagnostics_inspect_iff ha]
  · intro before after h a ha
    obtain ⟨hbefore, hafter⟩ := List.forall_mem_append.1 h
    have hmiddle := List.forall_mem_append.2 ⟨hbefore, List.forall_mem_cons.2 ⟨ha, hafter⟩⟩
    rw [hall _ hmiddle, hall before hbefore, hall after hafter, List.flatMap_append,
      List.flatMap_cons, List.append_assoc]

/-- Of three rule files, one finds fault and then stops, one is missing and one finds fault. Another file
in place of the missing one changes nothing about the others. -/
theorem inspectAll_isolated_partly :
    let encode := Text.Utf8.encode
    let pattern := fun test => encode "<pattern><rule context='/a'><assert test='" ++ encode test ++
      encode "'>no</assert></rule></pattern>"
    let file := fun patterns => some (Files.Entry.file
      (encode "<schema xmlns='http://purl.oclc.org/dsdl/schematron'>" ++ patterns ++
        encode "</schema>"))
    let w : Workspace Empty := ⟨.start ⟨[(["fault.sch"], file (pattern "b")),
      (["stop.sch"], file (pattern "b" ++ pattern "$x"))], []⟩, .empty false⟩
    let artifact := fun name : String =>
      (⟨.ofText name, .ruleSet, .bundled, .ofDirectory (.ofText "/")⟩ : Artifact)
    let stopping := artifact "/stop.sch"
    let missing := artifact "/gone.sch"
    let finding := artifact "/fault.sch"
    let stopped : XPath.Failure := ⟨"$x", "variable `$x` is not bound"⟩
    let unbound : Diagnostic := ⟨.error, stopped.message, none, none, none⟩
    let gone : Diagnostic := ⟨.error, "IO error: No such file or directory (os error 2)", none, none,
      none⟩
    let found : Diagnostic := ⟨.error, "no", some "b", none, some "XML:1:0"⟩
    ∃ d, Document.parse "<a/>".toUTF8.toList = .ok d ∧
      let i : Inspector Empty := ⟨.absent, "en", .usual, [], d⟩
      (∃ rules partly, RuleSet.load ⟨w.files, stopping.search⟩ stopping.path = .ok rules ∧
        partly ≠ [] ∧ Stops d rules partly stopped) ∧
      i.reported w [stopping, missing, finding] = [unbound, gone, found] ∧
      i.reported w [stopping, finding, finding] = [unbound, found, found] := by
  intro encode pattern file w artifact stopping missing finding stopped unbound gone found
  have heval : (Document.parse "<a/>".toUTF8.toList).toOption.any (fun d =>
      let i : Inspector Empty := ⟨.absent, "en", .usual, [], d⟩
      (RuleSet.load ⟨w.files, stopping.search⟩ stopping.path).toOption.any (fun rules =>
        let run := Pattern.run d (.ofList rules.namespaces) rules []
        rules.lets.isEmpty &&
          (((rules.patterns.take 1).mapM run).toOption.any (·.flatten ≠ []) &&
          rules.patterns[1]?.any (run · = .error stopped))) &&
      (i.reported w [missing] = [gone] && i.reported w [finding] = [found])) = true := by
    decide +kernel
  obtain ⟨d, hd, h⟩ := (Option.any_eq_true _ _).1 heval
  simp only [Bool.and_eq_true, decide_eq_true_eq] at h
  obtain ⟨h, hmissing, hfinding⟩ := h
  -- what the first pattern of the file finds, and where the second one stops
  obtain ⟨rules, hload, h⟩ := (Option.any_eq_true _ _).1 h
  obtain ⟨partly, hpartly, hstops⟩ : ∃ partly, partly ≠ [] ∧ Stops d rules partly stopped := by
    simp only [Bool.and_eq_true, List.isEmpty_iff] at h
    obtain ⟨hlets, hfirst, hsecond⟩ := h
    obtain ⟨groups, hgroups, hfound⟩ := (Option.any_eq_true _ _).1 hfirst
    obtain ⟨p, hp, hstop⟩ := (Option.any_eq_true _ _).1 hsecond
    obtain ⟨hlt, rfl⟩ := List.getElem?_eq_some_iff.1 hp
    have hbind : bind d (.ofList rules.namespaces) XPath.rootNode [] rules.lets = .ok [] := by
      rw [hlets]
      rfl
    have hsplit : rules.patterns = rules.patterns.take 1 ++ rules.patterns[1] ::
        rules.patterns.drop 2 := by
      rw [← List.drop_eq_getElem_cons hlt, List.take_append_drop]
    obtain ⟨partly, hstops⟩ := exists_stops_behind hbind hsplit (toOption_eq_some.1 hgroups)
      (of_decide_eq_true hstop)
    exact ⟨_, List.append_ne_nil_of_left_ne_nil (of_decide_eq_true hfound) _, hstops⟩
  replace hload := toOption_eq_some.1 hload
  obtain ⟨hsch, hsch', hsch''⟩ : stopping.extension? = some "sch" ∧
      missing.extension? = some "sch" ∧ finding.extension? = some "sch" := by decide +kernel
  obtain ⟨-, halone, hplace⟩ :=
    inspectAll_isolated (⟨.absent, "en", .usual, [], d⟩ : Inspector Empty) w
  have hstopping := (halone stopping hsch _).2 (.stopped hload hstops)
  have hothers : ∀ a ∈ [stopping] ++ [finding], a.extension? = some "sch" :=
    List.forall_mem_cons.2 ⟨hsch, List.forall_mem_singleton.2 hsch''⟩
  have hmiddle := hplace [stopping] [finding] hothers missing hsch'
  have hmiddle' := hplace [stopping] [finding] hothers finding hsch''
  rw [hstopping, hmissing, hfinding] at hmiddle
  rw [hstopping, hfinding] at hmiddle'
  exact ⟨d, toOption_eq_some.1 hd, ⟨rules, partly, hload, hpartly, hstops⟩, hmiddle, hmiddle'⟩

end XmlAudit.Schematron.Inspector
