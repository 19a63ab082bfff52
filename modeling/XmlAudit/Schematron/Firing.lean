import XmlAudit.Schematron.Finding
import XmlAudit.Schematron.RuleSet

/-!
# Applying rules

In each pattern, a node is handled by the first rule whose context matches it. Nodes are visited in
document order.

* `RuleSet.findings`: what the rules of a set find in a document.
* `Pattern.fired`: the nodes with the rules that handle them.
* `locationOf`: the place of a node, with positions counted from 0 among nodes of the same name.
-/

namespace XmlAudit.Schematron

open Xml (Document NodeId Namespaces)
open XPath (Node Value Context Failure Query)

/-- The place of an element among the elements of its name that are children of the same node. -/
def positionOf (d : Document) (id : NodeId) (name : Xml.QName) : Nat :=
  match d.parent? id with
  | some p =>
    (((d.children p).takeWhile (· ≠ id)).filter fun other =>
      ((d.element? other).map (·.name)) = some name).length
  | none => 0

/-- The step of an element in a place. -/
def stepOf (d : Document) (id : NodeId) : String :=
  match d.element? id with
  | some e => "/" ++ e.name.render ++ "[" ++ toString (positionOf d id e.name) ++ "]"
  | none => ""

/-- The place of an element. -/
def elementPath (d : Document) (id : NodeId) : String :=
  String.join (((d.ancestors id).reverse ++ [id]).map (stepOf d))

/-- The last step of the place of a node that is no element. -/
def lastStep (d : Document) : Node → String
  | .attr owner index =>
    (((Node.attr owner index).name? d).map fun n => "/@" ++ n.render).getD ""
  | .tree id => if !d.isElement id && (d.parent? id).isSome then "/text()" else ""

/-- The place of a node. -/
def locationOf (d : Document) (n : Node) : String :=
  let path := elementPath d n.owner ++ lastStep d n
  if path = "" then "/" else path

/-- The context of expressions that are evaluated for a node. -/
def contextFor (d : Document) (ns : Namespaces) (bindings : List (String × Value)) (n : Node) :
    Context :=
  ⟨d, ns, bindings, n⟩

section

variable (d : Document) (ns : Namespaces)

/-- Variables bound in order on top of others, at a node; later ones see earlier ones. -/
def bind (n : Node) (outer : List (String × Value)) (lets : List Binding) :
    Except Failure (List (String × Value)) :=
  lets.foldlM (fun bindings b => do
    return (b.name, ← b.value.evaluate (contextFor d ns bindings n) n) :: bindings) outer

/-- The text of a piece of a message. -/
def MessagePart.render (c : Context) (n : Node) : MessagePart → Except Failure String
  | text s => .ok s
  | valueOf q => q.evaluateText c n
  | nodeName none => .ok (((n.name? c.document).map (·.render)).getD "")
  | nodeName (some q) => do
    match ← q.select c n with
    | m :: _ => return ((m.name? c.document).map (·.render)).getD ""
    | [] => return ""

/-- The text of a message. -/
def renderMessage (c : Context) (n : Node) (parts : List MessagePart) : Except Failure String := do
  return Text.trim (String.join (← parts.mapM (·.render c n)))

/-- The kind of finding that a check makes of the outcome of its test, if any. -/
def CheckKind.outcome? : CheckKind → Bool → Option FindingKind
  | assert, false => some .failedAssert
  | report, true => some .successfulReport
  | _, _ => none

/-- The wordings of a finding that its check refers to. -/
def wordingsAt (r : RuleSet) (c : Context) (n : Node) (check : Check) :
    Except Failure (List WordedText) :=
  (check.wordings.filterMap fun id => (r.wording? id).map (id, ·)).mapM fun t => do
    return ⟨t.1, t.2.lang, ← renderMessage c n t.2.message⟩

/-- What a check finds at a node. -/
def Check.run (r : RuleSet) (c : Context) (n : Node) (check : Check) :
    Except Failure (Option Finding) := do
  match check.kind.outcome? (← check.test.evaluateBoolean c n) with
  | none => return none
  | some kind =>
    let text ← renderMessage c n check.message
    let wordings ← wordingsAt r c n check
    return some ⟨kind, check.id, check.flag, check.role, some check.test.source,
      some (locationOf c.document n), text, wordings⟩

/-- Nodes joined to those already taken by earlier rules, each with the rule that takes it. -/
def claim (fired : List (Node × Rule)) (rule : Rule) (nodes : List Node) : List (Node × Rule) :=
  fired ++ ((nodes.filter fun n => !fired.any (·.1 = n)).map (·, rule))

/-- The nodes that rules handle, each by the first rule whose context selects it. -/
def Pattern.claimed (p : Pattern) (c : Context) : Except Failure (List (Node × Rule)) :=
  p.rules.foldlM (fun fired rule => do
    return claim fired rule (← rule.context.select c XPath.rootNode)) []

/-- The nodes that rules handle, in document order. -/
def Pattern.fired (p : Pattern) (c : Context) : Except Failure (List (Node × Rule)) := do
  return (← p.claimed c).mergeSort fun a b => a.1.le b.1

/-- What a rule finds at a node. -/
def Rule.run (r : RuleSet) (outer : List (String × Value)) (n : Node) (rule : Rule) :
    Except Failure (List Finding) := do
  let c := contextFor d ns (← bind d ns n outer rule.lets) n
  return (← rule.checks.mapM (·.run r c n)).flatMap Option.toList

/-- What the rules of a pattern find. -/
def Pattern.run (r : RuleSet) (outer : List (String × Value)) (p : Pattern) :
    Except Failure (List Finding) := do
  let bindings ← bind d ns XPath.rootNode outer p.lets
  let fired ← p.fired (contextFor d ns bindings XPath.rootNode)
  return (← fired.mapM fun f => f.2.run d ns r bindings f.1).flatten

end

/-- What the rules of a set find in a document, pattern by pattern. -/
def RuleSet.findings (r : RuleSet) (d : Document) : Except Failure (List Finding) := do
  let ns := Namespaces.ofList r.namespaces
  let bindings ← bind d ns XPath.rootNode [] r.lets
  return (← r.patterns.mapM (·.run d ns r bindings)).flatten

end XmlAudit.Schematron
