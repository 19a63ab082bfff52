import XmlAudit.Proofs.Xml.ReadBack
import XmlAudit.Report.Xml

/-!
# Reading back reports

* `Document.ShowsReport`: what a document shows of a report.
* `Document.ShowsReport.unique`: the document tells the verdict, the counters, the input and the
  diagnostics.
* `Report.toXml_reads_back`: the document that a report is written as shows that report.
-/

namespace XmlAudit

open Xml (Document Markup NodeId IsWord PlainAttributes AllPlain plainElement)

/-! ## What a document shows -/

namespace Xml.Document

variable (d : Document) (id : NodeId)

/-- Whether a node is an element of a name without namespace. -/
def isNamed (name : String) : Bool :=
  (d.element? id).any fun e => e.name = ⟨none, name⟩ && e.uri = none

/-- The elements of a name among the children of a node. -/
def named (name : String) : List NodeId := (d.elements id).filter fun c => d.isNamed c name

/-- The texts of the elements of a name among the children of a node. -/
def texts (name : String) : List String := (d.named id name).map d.stringValue

/-- The value of an attribute without namespace. -/
def attribute? (name : String) : Option String :=
  (d.element? id).bind fun e => (e.attributes.find? fun a => a.name = ⟨none, name⟩).map (·.value)

/-- A node shows a diagnostic: it is named for the severity and has a child for every part that there
is, with the text of that part. -/
structure ShowsDiagnostic (x : Diagnostic) : Prop where
  severity : d.isNamed id x.severity.name
  description : d.texts id "description" = [x.description]
  location : d.texts id "location" = x.location.toList
  test : d.texts id "test" = x.test.toList
  assertionId : d.texts id "assertionID" = x.assertionId.toList

/-- A document shows a report: its verdict, its counters in decimal digits, the input where the report
repeats it, and its diagnostics, in order and one element each. -/
structure ShowsReport (r : Report) : Prop where
  name : d.isNamed documentElement "validationReport"
  verdict : d.attribute? documentElement "result" = some r.verdict.name
  counters : ∃ c, d.named documentElement "counters" = [c] ∧
    d.texts c "nrOfErrors" = [toString r.effectiveCounters.errors.toNat] ∧
    d.texts c "nrOfWarnings" = [toString r.effectiveCounters.warnings.toNat] ∧
    d.texts c "nrOfAssertions" = [toString r.effectiveCounters.infos.toNat]
  context : (d.named documentElement "context").map (d.texts · "item") = r.context.toList.map ([·])
  diagnostics : ∃ c, d.named documentElement "reports" = [c] ∧
    List.Forall₂ d.ShowsDiagnostic (d.elements c) r.diagnostics

end Xml.Document

/-! ## What is shown is told -/

theorem Verdict.name_injective : Function.Injective Verdict.name := by
  intro a b h
  cases a <;> cases b <;> first | rfl | exact absurd h (by decide)

theorem Severity.name_injective : Function.Injective Severity.name := by
  intro a b h
  cases a <;> cases b <;> first | rfl | exact absurd h (by decide)

theorem optionToList_injective {α : Type} : Function.Injective (Option.toList (α := α)) := by
  intro a b h
  cases a <;> cases b <;> simp_all

namespace Xml.Document

variable {d : Document}

theorem isNamed_iff {id : NodeId} {name : String} :
    d.isNamed id name ↔ ∃ e, d.element? id = some e ∧ e.name = ⟨none, name⟩ ∧ e.uri = none := by
  simp [isNamed, Option.any_eq_true]

theorem isNamed_unique {id : NodeId} {a b : String} (h : d.isNamed id a) (h' : d.isNamed id b) :
    a = b := by
  obtain ⟨e, he, hname, -⟩ := isNamed_iff.1 h
  obtain ⟨e', he', hname', -⟩ := isNamed_iff.1 h'
  obtain rfl : e = e' := Option.some.inj (he.symm.trans he')
  rw [hname] at hname'
  exact (QName.mk.inj hname').2

theorem ShowsDiagnostic.unique {id : NodeId} {x y : Diagnostic} (h : d.ShowsDiagnostic id x)
    (h' : d.ShowsDiagnostic id y) : x = y := by
  have hseverity := Severity.name_injective (isNamed_unique h.severity h'.severity)
  have hdescription := List.singleton_inj.1 (h.description.symm.trans h'.description)
  have hlocation := optionToList_injective (h.location.symm.trans h'.location)
  have htest := optionToList_injective (h.test.symm.trans h'.test)
  have hid := optionToList_injective (h.assertionId.symm.trans h'.assertionId)
  cases x
  cases y
  simp_all

/-- **A document tells what it shows of a report.** -/
theorem ShowsReport.unique {r r' : Report} (h : d.ShowsReport r) (h' : d.ShowsReport r') :
    r.verdict = r'.verdict ∧ r.effectiveCounters = r'.effectiveCounters ∧ r.context = r'.context ∧
      r.diagnostics = r'.diagnostics := by
  obtain ⟨c, hc, herrors, hwarnings, hinfos⟩ := h.counters
  obtain ⟨c', hc', herrors', hwarnings', hinfos'⟩ := h'.counters
  obtain ⟨list, hlist, hdiagnostics⟩ := h.diagnostics
  obtain ⟨list', hlist', hdiagnostics'⟩ := h'.diagnostics
  obtain rfl : c = c' := List.singleton_inj.1 (hc.symm.trans hc')
  obtain rfl : list = list' := List.singleton_inj.1 (hlist.symm.trans hlist')
  have hcontext : r.context.toList.map ([·]) = r'.context.toList.map ([·]) :=
    h.context.symm.trans h'.context
  have hunique : Relator.RightUnique d.ShowsDiagnostic := fun _ _ _ hx hy => hx.unique hy
  have hcounters : r.effectiveCounters = r'.effectiveCounters := by
    have he := UInt64.toNat_inj.1 (Nat.repr_injective (List.singleton_inj.1 (herrors.symm.trans herrors')))
    have hw := UInt64.toNat_inj.1 (Nat.repr_injective (List.singleton_inj.1 (hwarnings.symm.trans hwarnings')))
    have hi := UInt64.toNat_inj.1 (Nat.repr_injective (List.singleton_inj.1 (hinfos.symm.trans hinfos')))
    generalize r.effectiveCounters = x at he hw hi ⊢
    generalize r'.effectiveCounters = y at he hw hi ⊢
    cases x
    cases y
    simp_all
  refine ⟨?_, hcounters, ?_, hunique.forall₂ hdiagnostics hdiagnostics'⟩
  · exact Verdict.name_injective (Option.some.inj (h.verdict.symm.trans h'.verdict))
  · exact optionToList_injective (List.map_injective_iff.2 (fun _ _ => List.singleton_inj.1) hcontext)

end Xml.Document

/-! ## What is written -/

namespace Xml

/-- The name of an element to be written. -/
def Markup.name : Markup → String
  | .leaf name _ _ => name
  | .group name _ _ => name

/-- The elements in an element to be written. -/
def Markup.children : Markup → List Markup
  | .leaf _ _ _ => []
  | .group _ _ children => children

@[simp] theorem Markup.name_leaf (name : String) (attributes : List (String × String))
    (content : String) : (Markup.leaf name attributes content).name = name := rfl

@[simp] theorem Markup.name_group (name : String) (attributes : List (String × String))
    (children : List Markup) : (Markup.group name attributes children).name = name := rfl

namespace Document

variable {d : Document} {id : NodeId}

theorem isNamed_plainElement {name name' : String} {attributes : List (String × String)}
    (h : d.element? id = some (plainElement name attributes)) :
    d.isNamed id name' = decide (name = name') := by
  simp [isNamed, h, plainElement]

theorem Shows.isNamed_eq {m : Markup} (h : d.Shows id m) (name : String) :
    d.isNamed id name = decide (m.name = name) := by
  cases m with
  | leaf => exact isNamed_plainElement h.1
  | group => exact isNamed_plainElement h.1

/-- The nodes of a name show the elements of that name. -/
theorem forall₂_named {ms : List Markup} (h : List.Forall₂ d.Shows (d.elements id) ms)
    (name : String) : List.Forall₂ d.Shows (d.named id name) (ms.filter (·.name = name)) := by
  rw [named]
  generalize d.elements id = ids at h
  induction h with
  | nil => exact .nil
  | cons hm _ ih =>
    rw [List.filter_cons, List.filter_cons, hm.isNamed_eq]
    split
    · exact .cons hm ih
    · exact ih

/-- The texts of the nodes that show leaves. -/
theorem map_stringValue {name : String} {attributes : List (String × String)} {ids : List NodeId}
    {contents : List String}
    (h : List.Forall₂ d.Shows ids (contents.map (Markup.leaf name attributes))) :
    ids.map d.stringValue = contents := by
  induction contents generalizing ids with
  | nil =>
    obtain rfl := List.forall₂_nil_right_iff.1 h
    rfl
  | cons content contents ih =>
    obtain ⟨i, rest, hi, hrest, rfl⟩ := List.forall₂_cons_right_iff.1 h
    rw [List.map_cons, ih hrest, hi.2]

/-- The texts of a name are those of the leaves of that name. -/
theorem texts_eq {ms : List Markup} {name : String} (attributes : List (String × String))
    {contents : List String} (h : List.Forall₂ d.Shows (d.elements id) ms)
    (hms : ms.filter (·.name = name) = contents.map (Markup.leaf name attributes)) :
    d.texts id name = contents :=
  map_stringValue (hms ▸ forall₂_named h name)

/-- The only node of a name shows the only element of that name. -/
theorem exists_named {ms : List Markup} {m : Markup} {name : String}
    (h : List.Forall₂ d.Shows (d.elements id) ms) (hms : ms.filter (·.name = name) = [m]) :
    ∃ c, d.named id name = [c] ∧ d.Shows c m := by
  obtain ⟨c, rest, hc, hrest, heq⟩ := List.forall₂_cons_right_iff.1 (hms ▸ forall₂_named h name)
  obtain rfl := List.forall₂_nil_right_iff.1 hrest
  exact ⟨c, heq, hc⟩

end Document

end Xml

theorem textElement_eq (name : String) (value : Option String) :
    textElement name value = value.toList.map (Markup.leaf name []) := by
  cases value <;> rfl

theorem filter_textElement (name name' : String) (value : Option String) :
    (textElement name value).filter (·.name = name') =
      if name = name' then textElement name value else [] := by
  cases value with
  | none => simp [textElement]
  | some s => by_cases h : name = name' <;> simp [textElement, h]

namespace Xml.Document

variable {d : Document} {id : NodeId}

/-- The element of a diagnostic shows the diagnostic. -/
theorem Shows.diagnostic {x : Diagnostic} (h : d.Shows id x.toMarkup) : d.ShowsDiagnostic id x := by
  have hparts := showAll_iff.1 h.2
  refine ⟨?_, texts_eq [] hparts ?_, texts_eq [] hparts ?_, texts_eq [] hparts ?_,
    texts_eq [] hparts ?_⟩
  · rw [h.isNamed_eq]
    exact decide_eq_true rfl
  all_goals
    simp only [List.cons_append, List.filter_cons, List.filter_append, filter_textElement,
      Markup.name_leaf]
    simp [textElement_eq]

theorem Shows.attribute? {name key : String} {attributes : List (String × String)}
    {children : List Markup} (h : d.Shows id (.group name attributes children)) :
    d.attribute? id key = (attributes.find? (·.1 = key)).map (·.2) := by
  have hname : ((fun a : Attribute => decide (a.name = ⟨none, key⟩)) ∘
      fun a : String × String => ⟨⟨none, a.1⟩, none, a.2⟩) = fun a => decide (a.1 = key) := by
    funext a
    simp
  rw [Document.attribute?, h.1, Option.bind_some, plainElement, List.find?_map, hname,
    Option.map_map]
  rfl

/-- The count of a name. -/
theorem texts_count {ms : List Markup} {name : String} {n : UInt64}
    (h : List.Forall₂ d.Shows (d.elements id) ms)
    (hms : ms.filter (·.name = name) = [countElement name n]) :
    d.texts id name = [toString n.toNat] :=
  texts_eq [] h hms

end Xml.Document

namespace Report

variable (r : Report)

theorem filter_counters : r.toMarkup.children.filter (·.name = "counters") =
    [.group "counters" [] [countElement "nrOfErrors" r.effectiveCounters.errors,
      countElement "nrOfWarnings" r.effectiveCounters.warnings,
      countElement "nrOfAssertions" r.effectiveCounters.infos]] := by
  cases hcontext : r.context <;> simp [toMarkup, Markup.children, hcontext]

theorem filter_context : r.toMarkup.children.filter (·.name = "context") =
    r.context.toList.map fun s => .group "context" [] [.leaf "item" [("name", "input")] s] := by
  cases hcontext : r.context <;> simp [toMarkup, Markup.children, hcontext]

theorem filter_reports : r.toMarkup.children.filter (·.name = "reports") =
    [.group "reports" [] (r.diagnostics.map Diagnostic.toMarkup)] := by
  cases hcontext : r.context <;> simp [toMarkup, Markup.children, hcontext]

end Report

namespace Xml.Document

variable {d : Document} {id : NodeId}

/-- The text in the element that repeats the input. -/
theorem Shows.item {s : String}
    (h : d.Shows id (.group "context" [] [.leaf "item" [("name", "input")] s])) :
    d.texts id "item" = [s] :=
  texts_eq [("name", "input")] (showAll_iff.1 h.2) (by simp)

/-- **The element of a report shows the report.** -/
theorem Shows.report {r : Report} (h : d.Shows documentElement r.toMarkup) : d.ShowsReport r := by
  have hparts : List.Forall₂ d.Shows (d.elements documentElement) r.toMarkup.children :=
    showAll_iff.1 h.2
  refine ⟨?_, ?_, ?_, ?_, ?_⟩
  · rw [h.isNamed_eq]
    exact decide_eq_true rfl
  · rw [h.attribute?]
    rfl
  · obtain ⟨c, hc, hshows⟩ := exists_named hparts r.filter_counters
    have hcounts := showAll_iff.1 hshows.2
    exact ⟨c, hc, texts_count hcounts (by simp [countElement]),
      texts_count hcounts (by simp [countElement]), texts_count hcounts (by simp [countElement])⟩
  · have hcontext := forall₂_named hparts "context"
    rw [r.filter_context, List.forall₂_map_right_iff] at hcontext
    rw [← List.forall₂_eq_eq_eq, List.forall₂_map_left_iff, List.forall₂_map_right_iff]
    exact hcontext.imp fun _ _ => Shows.item
  · obtain ⟨c, hc, hshows⟩ := exists_named hparts r.filter_reports
    have hdiagnostics := showAll_iff.1 hshows.2
    rw [List.forall₂_map_right_iff] at hdiagnostics
    exact ⟨c, hc, hdiagnostics.imp fun _ _ => Shows.diagnostic⟩

end Xml.Document

/-! ## Names -/

theorem plainAttributes_nil : PlainAttributes [] := ⟨nofun, nofun, List.nodup_nil⟩

theorem Xml.allPlain_iff {ms : List Markup} : AllPlain ms ↔ ∀ m ∈ ms, m.Plain := by
  induction ms with
  | nil => simp [AllPlain]
  | cons m ms ih => rw [AllPlain, ih, List.forall_mem_cons]

theorem Severity.isWord_name (x : Severity) : IsWord x.name := by
  cases x <;> decide

theorem plain_of_mem_textElement {name : String} {value : Option String} {m : Markup}
    (hname : IsWord name) (h : m ∈ textElement name value) : m.Plain := by
  rw [textElement_eq, List.mem_map] at h
  obtain ⟨s, -, rfl⟩ := h
  exact ⟨hname, plainAttributes_nil⟩

theorem Diagnostic.plain (x : Diagnostic) : x.toMarkup.Plain := by
  refine ⟨x.severity.isWord_name, plainAttributes_nil, Xml.allPlain_iff.2 ?_⟩
  simp only [List.cons_append, List.mem_cons, List.mem_append]
  rintro m (rfl | (h | h) | h)
  · exact ⟨by decide, plainAttributes_nil⟩
  · exact plain_of_mem_textElement (by decide) h
  · exact plain_of_mem_textElement (by decide) h
  · exact plain_of_mem_textElement (by decide) h

/-- Every name in the element of a report is a word. -/
theorem Report.plain (r : Report) : r.toMarkup.Plain := by
  have hcount (name : String) (hname : IsWord name) (n : UInt64) : (countElement name n).Plain :=
    ⟨hname, plainAttributes_nil⟩
  have hresult : IsWord "result" := by decide
  have hdate : IsWord "date" := by decide
  refine ⟨by decide, ?_, Xml.allPlain_iff.2 ?_⟩
  · cases r.date with
    | none => exact ⟨by simpa using hresult, by simp, by simp⟩
    | some t => exact ⟨by simpa using ⟨hresult, hdate⟩, by simp, by simp⟩
  · simp only [List.mem_append, List.mem_singleton, Option.mem_toList, Option.map_eq_some_iff]
    rintro m ((rfl | ⟨s, -, rfl⟩) | rfl)
    · exact ⟨by decide, plainAttributes_nil, hcount _ (by decide) _,
        hcount _ (by decide) _, hcount _ (by decide) _, trivial⟩
    · have hname : IsWord "name" := by decide
      have hitem : PlainAttributes [("name", "input")] :=
        ⟨by simpa using hname, by simp, by simp⟩
      exact ⟨by decide, plainAttributes_nil, ⟨by decide, hitem⟩, trivial⟩
    · refine ⟨by decide, plainAttributes_nil, Xml.allPlain_iff.2 fun m hm => ?_⟩
      obtain ⟨x, -, rfl⟩ := List.mem_map.1 hm
      exact x.plain

/-- **A report is read back from the document that it is written as.** -/
theorem Report.toXml_reads_back (r : Report) :
    ∃ d, Document.parse (Text.Utf8.encode r.toXml) = .ok d ∧ d.ShowsReport r ∧
      ∀ r', d.ShowsReport r' → r'.verdict = r.verdict ∧
        r'.effectiveCounters = r.effectiveCounters ∧ r'.context = r.context ∧
        r'.diagnostics = r.diagnostics := by
  obtain ⟨d, hd, hshows⟩ := Xml.parse_render r.plain
  exact ⟨d, hd, hshows.report, fun r' h => h.unique hshows.report⟩

/-- Markup, blanks and an empty text are read back, and the counters that the report left out. -/
theorem Report.toXml_reads_back_markup :
    let x : Diagnostic := ⟨.error, " <a b='&amp;'>\n", some "", none, some "]]>"⟩
    let r : Report := ⟨.failure, none, none, [x, { x with severity := .info }], some "<?xml?><a/>"⟩
    ∃ d, Document.parse (Text.Utf8.encode r.toXml) = .ok d ∧ d.ShowsReport r ∧
      ∀ counters, d.ShowsReport { r with counters := some counters } → counters = ⟨1, 0, 1⟩ := by
  intro x r
  obtain ⟨d, hd, hshows, hunique⟩ := Report.toXml_reads_back r
  refine ⟨d, hd, hshows, fun counters h => ?_⟩
  obtain ⟨-, hcounters, -, -⟩ := hunique _ h
  exact hcounters.trans (by decide)

end XmlAudit
