import XmlAudit.Proofs.Outcome
import XmlAudit.Schematron.Load

/-!
# What rule files say, wherever they stand

Where the items of a rule file can be read, the place of the file matters only for the wording of
errors to come.

* `PatternItem.inFile`, `SchemaItem.inFile`: an item as if it stood in a file.
* `messageOf_toOption`, `ruleOf_toOption`, `wordingsOf_toOption`: what is read from elements is the
  same in every file.
* `RuleSet.ofItems_toOption`: so is the rule set that items make up.
-/

namespace XmlAudit.Schematron

open Files (Path)
open Xml (Tree Element)
open XPath (Query)

/-! ## Expressions and messages -/

section

variable {s s' : Spot} {file file' : Path}

theorem Spot.attr_toOption (e : Element) (name : String) : (s.attr e name).toOption = attr? e name := by
  rw [Spot.attr]
  cases attr? e name <;> rfl

theorem Spot.compile_toOption (source : String) :
    (s.compile source).toOption = (Query.compile source).toOption :=
  mapError_toOption _ _

theorem Spot.compilePattern_toOption (source : String) :
    (s.compilePattern source).toOption = (Query.compilePattern source).toOption :=
  mapError_toOption _ _

theorem Spot.binding_toOption (e : Element) : (s.binding e).toOption = (s'.binding e).toOption := by
  simp only [Spot.binding, bind_toOption, Spot.attr_toOption, Spot.compile_toOption, pure_toOption]

mutual

/-- A message is the same in every file. -/
theorem messageOf_toOption (t : Tree) : (messageOf file t).toOption = (messageOf file' t).toOption := by
  cases t with
  | text line s => rfl
  | element line e children =>
    have hrest := messageOfAll_toOption children
    rw [messageOf, messageOf]
    split
    · simp only [bind_toOption, Spot.attr_toOption, Spot.compile_toOption, pure_toOption]
    · split
      · cases attr? e "path" with
        | none => rfl
        | some path => simp only [bind_toOption, Spot.compile_toOption, pure_toOption]
      · exact hrest
termination_by structural t

theorem messageOfAll_toOption (ts : List Tree) :
    (messageOfAll file ts).toOption = (messageOfAll file' ts).toOption := by
  cases ts with
  | nil => rfl
  | cons t ts =>
    have hfirst := messageOf_toOption t
    have hrest := messageOfAll_toOption ts
    simp only [messageOfAll, bind_toOption, pure_toOption, hfirst, hrest]
termination_by structural ts

end

theorem checkOf_toOption (kind : CheckKind) (e : Element) (children : List Tree) :
    (checkOf s kind e children).toOption = (checkOf s' kind e children).toOption := by
  simp only [checkOf, bind_toOption, Spot.attr_toOption, Spot.compile_toOption, pure_toOption]
  rw [messageOfAll_toOption]

theorem wordingsOf_toOption (ts : List Tree) :
    (wordingsOf file ts).toOption = (wordingsOf file' ts).toOption := by
  induction ts with
  | nil => rfl
  | cons t ts ih =>
    cases t with
    | text => simpa only [wordingsOf] using ih
    | element line e children =>
      rw [wordingsOf, wordingsOf]
      split
      · simp only [bind_toOption, Spot.attr_toOption, pure_toOption, ih]
        rw [messageOfAll_toOption]
      · exact ih

/-! ## Rules -/

theorem ruleItems_toOption (ts : List Tree) :
    (ruleItems file ts).toOption = (ruleItems file' ts).toOption := by
  induction ts with
  | nil => rfl
  | cons t ts ih =>
    cases t with
    | text => simpa only [ruleItems] using ih
    | element line e children =>
      have hbinding := @Spot.binding_toOption ⟨file, line⟩ ⟨file', line⟩ e
      have hcheck := fun kind => @checkOf_toOption ⟨file, line⟩ ⟨file', line⟩ kind e children
      rw [ruleItems, ruleItems]
      split
      · simp only [bind_toOption, hbinding, ih, pure_toOption]
      · split
        · simp only [bind_toOption, hcheck, ih, pure_toOption]
        · split
          · simp only [bind_toOption, hcheck, ih, pure_toOption]
          · split
            · simp only [bind_toOption, Spot.attr_toOption, ih, pure_toOption]
            · simp only [bind_toOption, ih, pure_toOption]

end

/-! ## Items -/

/-- A rule as if it stood in a file. -/
def DraftRule.inFile (file : Path) (d : DraftRule) : DraftRule := { d with file }

/-- An item of a pattern as if it stood in a file. -/
def PatternItem.inFile (file : Path) : PatternItem → PatternItem
  | .rule r => .rule (r.inFile file)
  | item => item

/-- An item of a schema as if it stood in a file. -/
def SchemaItem.inFile (file : Path) : SchemaItem → SchemaItem
  | .pattern id items => .pattern id (items.map (·.inFile file))
  | item => item

/-- A rule is the same in every file, but for the file itself. -/
theorem ruleOf_toOption {s s' : Spot} {e : Element} {children : List Tree} :
    (ruleOf s e children).toOption.map (·.inFile s'.file) = (ruleOf s' e children).toOption := by
  rw [ruleOf, ruleOf, bind_toOption, bind_toOption, @ruleItems_toOption s.file s'.file]
  cases (ruleItems s'.file children).toOption with
  | none => rfl
  | some items =>
    simp only [Option.bind_some]
    split
    · cases attr? e "id" with
      | none => rfl
      | some id => simp only; split <;> rfl
    · simp only [bind_toOption, Spot.attr_toOption, Spot.compilePattern_toOption, pure_toOption]
      cases attr? e "context" with
      | none => rfl
      | some context =>
        simp only [Option.bind_some]
        cases (Query.compilePattern context).toOption <;> rfl

/-! ## Rule sets -/

section

variable {file : Path}

theorem DraftRule.extend_toOption (bases : List AbstractRule) (d : DraftRule) :
    ((d.inFile file).extend bases).toOption = (d.extend bases).toOption := by
  obtain ⟨rule, ids, own⟩ := d
  simp only [DraftRule.extend, DraftRule.inFile]
  induction ids generalizing rule with
  | nil => rfl
  | cons id ids ih =>
    rw [List.foldlM_cons, List.foldlM_cons, bind_toOption, bind_toOption]
    cases findBase? bases id with
    | none => rfl
    | some base => exact ih _

theorem PatternItem.rule?_inFile (item : PatternItem) :
    (item.inFile file).rule? = item.rule?.map (·.inFile file) := by
  cases item <;> rfl

theorem PatternItem.binding?_inFile (item : PatternItem) :
    (item.inFile file).binding? = item.binding? := by
  cases item <;> rfl

theorem PatternItem.abstract?_inFile (item : PatternItem) :
    (item.inFile file).abstract? = item.abstract? := by
  cases item <;> rfl

theorem Pattern.ofItems_toOption (bases : List AbstractRule) (id : Option String)
    (items : List PatternItem) :
    (Pattern.ofItems bases id (items.map (·.inFile file))).toOption =
      (Pattern.ofItems bases id items).toOption := by
  have hrules : (items.map (·.inFile file)).filterMap PatternItem.rule? =
      (items.filterMap PatternItem.rule?).map (·.inFile file) := by
    rw [List.filterMap_map, List.map_filterMap]
    exact List.filterMap_congr fun item _ => item.rule?_inFile
  have hbindings : (items.map (·.inFile file)).filterMap PatternItem.binding? =
      items.filterMap PatternItem.binding? := by
    rw [List.filterMap_map]
    exact List.filterMap_congr fun item _ => item.binding?_inFile
  have hextended : ∀ ds : List DraftRule,
      (ds.mapM ((fun d : DraftRule => d.extend bases) ∘ fun d : DraftRule => d.inFile file)).toOption =
        (ds.mapM fun d : DraftRule => d.extend bases).toOption :=
    fun ds => mapM_toOption fun d _ => DraftRule.extend_toOption bases d
  rw [Pattern.ofItems, Pattern.ofItems, hrules, hbindings, bind_toOption, bind_toOption,
    List.mapM_map, hextended]

/-- **The rule set of items does not depend on the files** in which they stand. -/
theorem RuleSet.ofItems_toOption (source : Path) (items : List SchemaItem) :
    (RuleSet.ofItems source (items.map (·.inFile file))).toOption =
      (RuleSet.ofItems source items).toOption := by
  -- each kind of item is picked out alike, and only patterns know their file
  have hpatterns : (items.map (·.inFile file)).filterMap SchemaItem.pattern? =
      (items.filterMap SchemaItem.pattern?).map fun p => (p.1, p.2.map (·.inFile file)) := by
    rw [List.filterMap_map, List.map_filterMap]
    refine List.filterMap_congr fun item _ => ?_
    cases item <;> rfl
  have hns : (items.map (·.inFile file)).filterMap SchemaItem.ns? =
      items.filterMap SchemaItem.ns? := by
    rw [List.filterMap_map]
    refine List.filterMap_congr fun item _ => ?_
    cases item <;> rfl
  have hlets : (items.map (·.inFile file)).filterMap SchemaItem.binding? =
      items.filterMap SchemaItem.binding? := by
    rw [List.filterMap_map]
    refine List.filterMap_congr fun item _ => ?_
    cases item <;> rfl
  have hwordings : (items.map (·.inFile file)).flatMap SchemaItem.wordingList =
      items.flatMap SchemaItem.wordingList := by
    rw [List.flatMap_map]
    refine List.flatMap_congr fun item _ => ?_
    cases item <;> rfl
  have hbases : ∀ ps : List (Option String × List PatternItem),
      (ps.map fun p => (p.1, p.2.map (·.inFile file))).flatMap
          (fun p => p.2.filterMap PatternItem.abstract?) =
        ps.flatMap fun p => p.2.filterMap PatternItem.abstract? := by
    intro ps
    rw [List.flatMap_map]
    refine List.flatMap_congr fun p _ => ?_
    rw [List.filterMap_map]
    exact List.filterMap_congr fun item _ => item.abstract?_inFile
  simp only [RuleSet.ofItems, hpatterns, hns, hlets, hwordings, hbases, bind_toOption, List.mapM_map]
  rw [mapM_toOption fun p _ => Pattern.ofItems_toOption _ p.1 p.2]

end

end XmlAudit.Schematron
