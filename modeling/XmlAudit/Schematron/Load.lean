import XmlAudit.Schematron.Item

/-!
# Rule sets from their items

* `RuleSet.ofItems`: rules take over what the abstract rules that they extend contain.
* `RuleSet.parse`, `RuleSet.load`: the rule set of a rule file.
-/

namespace XmlAudit.Schematron

open Files (Path)
open Xml (Tree)

namespace PatternItem

/-- The variable that an item binds. -/
def binding? : PatternItem → Option Binding
  | binding b => some b
  | _ => none

/-- The abstract rule that an item is. -/
def abstract? : PatternItem → Option AbstractRule
  | abstract r => some r
  | _ => none

/-- The rule that an item is. -/
def rule? : PatternItem → Option DraftRule
  | rule r => some r
  | _ => none

end PatternItem

namespace SchemaItem

/-- The namespace that an item declares. -/
def ns? : SchemaItem → Option (String × String)
  | ns p u => some (p, u)
  | _ => none

/-- The variable that an item binds. -/
def binding? : SchemaItem → Option Binding
  | binding b => some b
  | _ => none

/-- The items of the pattern that an item is. -/
def pattern? : SchemaItem → Option (Option String × List PatternItem)
  | pattern id items => some (id, items)
  | _ => none

/-- The wordings that an item holds. -/
def wordingList : SchemaItem → List Wording
  | wordings ts => ts
  | _ => []

end SchemaItem

/-- What an abstract rule contains; of several with one id the last one counts. -/
def findBase? (bases : List AbstractRule) (id : String) : Option AbstractRule :=
  bases.reverse.find? (·.id = id)

/-- A rule with what the abstract rules contain that it extends. -/
def DraftRule.extend (bases : List AbstractRule) (d : DraftRule) : Except AuditError Rule :=
  d.bases.foldlM (fun rule id =>
    match findBase? bases id with
    | some base =>
      .ok { rule with lets := rule.lets ++ base.lets, checks := rule.checks ++ base.checks }
    | none => .error (.invalidRuleSet d.file ("unknown abstract rule " ++ id))) d.rule

/-- The pattern of its items. -/
def Pattern.ofItems (bases : List AbstractRule) (id : Option String) (items : List PatternItem) :
    Except AuditError Pattern := do
  let rules ← (items.filterMap PatternItem.rule?).mapM (·.extend bases)
  return ⟨id, items.filterMap PatternItem.binding?, rules⟩

namespace RuleSet

/-- The ids of wordings that the checks of a rule set refer to, in order. -/
def referredWordings (r : RuleSet) : List String :=
  r.patterns.flatMap fun p => p.rules.flatMap fun rule => rule.checks.flatMap (·.wordings)

/-- The rule set of the items of a schema. -/
def ofItems (source : Path) (items : List SchemaItem) : Except AuditError RuleSet := do
  let patterns := items.filterMap SchemaItem.pattern?
  let bases := patterns.flatMap fun p => p.2.filterMap PatternItem.abstract?
  let r : RuleSet :=
    { source := source
      namespaces := items.filterMap SchemaItem.ns?
      lets := items.filterMap SchemaItem.binding?
      patterns := ← patterns.mapM fun p => Pattern.ofItems bases p.1 p.2
      wordings := items.flatMap SchemaItem.wordingList }
  match r.referredWordings.find? fun id => (r.wording? id).isNone with
  | some id => throw (.invalidRuleSet source ("unknown diagnostic " ++ id))
  | none => return r

/-- The rule set of the tree of a rule file. -/
def ofTree (reader : Reader) (path : Path) : Tree → Except AuditError RuleSet
  | .text _ _ => .error (.invalidRuleSet path "no document element")
  | .element _ e children =>
    if isNamed "schema" e then do
      ofItems path (← reader.schemaItemsOf path includeLimit children)
    else
      .error (.invalidRuleSet path
        ("root element " ++ e.name.render ++ " is not a Schematron schema"))

/-- The rule set of the bytes of a rule file. -/
def parse (reader : Reader) (path : Path) (source : List UInt8) : Except AuditError RuleSet := do
  let tree ← (Tree.parse source).mapError fun m =>
    .invalidRuleSet path (AuditError.ofMalformed m).message
  ofTree reader path tree

/-- The rule set of a rule file. -/
def load (reader : Reader) (path : Path) : Except AuditError RuleSet := do
  parse reader path (← (reader.files.read path).mapError .ofFile)

end RuleSet

end XmlAudit.Schematron
