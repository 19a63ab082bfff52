import XmlAudit.Artifact.SearchPath
import XmlAudit.Error
import XmlAudit.Schematron.RuleSet
import XmlAudit.Xml.Parse

/-!
# The items of a rule file

A rule file is read from the tree of its elements into items, those of included files in the place
of the element that includes them.

* `SchemaItem`, `PatternItem`: what stands in a schema and in a pattern.
* `Reader.schemaItems`, `Reader.patternItems`: the items that an element stands for.
* `RuleFault`: what can be wrong with an element, with its wording.
-/

namespace XmlAudit.Schematron

open Files (Path FileTree)
open Xml (Tree Element)
open XPath (Query)

/-- What can be wrong with an element of a rule file. -/
inductive RuleFault where
  | missing (element attr : String)
  | badExpression (failure : XPath.Failure)
  | abstractPattern
  | abstractRuleWithoutId
  | abstractRuleExtends (id : String)
  | includesTooDeep (href : String)

/-- How a fault of an element is worded. -/
def RuleFault.message : RuleFault → String
  | missing element attr => element ++ " without " ++ attr
  | badExpression failure => failure.message
  | abstractPattern => "abstract patterns are not supported"
  | abstractRuleWithoutId => "abstract rule without id"
  | abstractRuleExtends id => "abstract rule " ++ id ++ " extends another rule"
  | includesTooDeep href => "includes nested too deeply at " ++ href

/-- A rule as it is written: it may extend abstract rules, which are looked up at the end. -/
structure DraftRule where
  rule : Rule
  bases : List String
  file : Path

/-- What an abstract rule lends to the rules that extend it. -/
structure AbstractRule where
  id : String
  lets : List Binding
  checks : List Check

/-- An item of a pattern. -/
inductive PatternItem where
  | binding (b : Binding)
  | abstract (r : AbstractRule)
  | rule (r : DraftRule)

/-- An item of a schema. -/
inductive SchemaItem where
  | ns (pre uri : String)
  | binding (b : Binding)
  | pattern (id : Option String) (items : List PatternItem)
  | wordings (ts : List Wording)

/-- The namespaces of rule files. -/
def ruleNamespaces : List String :=
  ["http://purl.oclc.org/dsdl/schematron", "http://www.ascc.net/xml/schematron"]

/-- Whether an element is the one of a name in rule files. -/
def isNamed (name : String) (e : Element) : Bool :=
  e.name.localPart = name && e.uri.any ruleNamespaces.contains

/-- The value of an attribute without prefix. -/
def attr? (e : Element) (name : String) : Option String :=
  (e.attributes.find? fun a => a.name = ⟨none, name⟩).map (·.value)

/-- The language of an element. -/
def language? (e : Element) : Option String :=
  (e.attributes.find? fun a => a.name = ⟨some "xml", "lang"⟩).map (·.value)

/-- The fault of an element on a line of a file as an error. -/
def faultAt (file : Path) (line : Nat) (f : RuleFault) : AuditError :=
  .invalidRuleSet file ("line " ++ toString line ++ ": " ++ f.message)

/-- A place in a rule file. -/
structure Spot where
  file : Path
  line : Nat

namespace Spot

variable (s : Spot)

/-- The error of a fault here. -/
def fault (f : RuleFault) : AuditError := faultAt s.file s.line f

/-- The value of an attribute that has to be there. -/
def attr (e : Element) (name : String) : Except AuditError String :=
  match attr? e name with
  | some v => .ok v
  | none => .error (s.fault (.missing e.name.render name))

/-- The expression that a text spells. -/
def compile (source : String) : Except AuditError Query :=
  (Query.compile source).mapError fun f => s.fault (.badExpression f)

/-- The pattern that a text spells. -/
def compilePattern (source : String) : Except AuditError Query :=
  (Query.compilePattern source).mapError fun f => s.fault (.badExpression f)

/-- The variable that an element binds. -/
def binding (e : Element) : Except AuditError Binding := do
  let name ← s.attr e "name"
  let value ← s.attr e "value"
  return ⟨name, ← s.compile value⟩

end Spot

mutual

/-- The message that a node is part of; of elements with another meaning than to insert a value or a
name, the content counts. -/
def messageOf (file : Path) : Tree → Except AuditError (List MessagePart)
  | .text _ s => .ok [.text s]
  | .element line e children =>
    let spot : Spot := ⟨file, line⟩
    if isNamed "value-of" e then do
      return [.valueOf (← spot.compile (← spot.attr e "select"))]
    else if isNamed "name" e then
      match attr? e "path" with
      | some path => do return [.nodeName (some (← spot.compile path))]
      | none => .ok [.nodeName none]
    else messageOfAll file children

/-- The message that nodes make up. -/
def messageOfAll (file : Path) : List Tree → Except AuditError (List MessagePart)
  | [] => .ok []
  | t :: ts => do
    let first ← messageOf file t
    return first ++ (← messageOfAll file ts)

end

/-- The check that an element stands for. -/
def checkOf (spot : Spot) (kind : CheckKind) (e : Element) (children : List Tree) :
    Except AuditError Check := do
  let test ← spot.compile (← spot.attr e "test")
  let message ← messageOfAll spot.file children
  return ⟨kind, attr? e "id", attr? e "role", attr? e "flag", test, message,
    ((attr? e "diagnostics").map Text.fields).getD []⟩

/-- An item of a rule. -/
inductive RuleItem where
  | binding (b : Binding)
  | check (c : Check)
  | base (id : String)

/-- The items of a rule, in order; other elements and texts are passed over. -/
def ruleItems (file : Path) : List Tree → Except AuditError (List RuleItem)
  | [] => .ok []
  | .text _ _ :: rest => ruleItems file rest
  | .element line e children :: rest => do
    let spot : Spot := ⟨file, line⟩
    let items ←
      if isNamed "let" e then do pure [RuleItem.binding (← spot.binding e)]
      else if isNamed "assert" e then do pure [RuleItem.check (← checkOf spot .assert e children)]
      else if isNamed "report" e then do pure [RuleItem.check (← checkOf spot .report e children)]
      else if isNamed "extends" e then do pure [RuleItem.base (← spot.attr e "rule")]
      else pure []
    return items ++ (← ruleItems file rest)

/-- The variables among the items of a rule. -/
def RuleItem.binding? : RuleItem → Option Binding
  | binding b => some b
  | _ => none

/-- The checks among the items of a rule. -/
def RuleItem.check? : RuleItem → Option Check
  | check c => some c
  | _ => none

/-- The abstract rules that a rule extends, among its items. -/
def RuleItem.base? : RuleItem → Option String
  | base id => some id
  | _ => none

/-- The rule that an element stands for. -/
def ruleOf (spot : Spot) (e : Element) (children : List Tree) : Except AuditError PatternItem := do
  let items ← ruleItems spot.file children
  let lets := items.filterMap RuleItem.binding?
  let checks := items.filterMap RuleItem.check?
  let bases := items.filterMap RuleItem.base?
  if attr? e "abstract" = some "true" then
    match attr? e "id" with
    | none => throw (spot.fault .abstractRuleWithoutId)
    | some id =>
      if bases.isEmpty then return .abstract ⟨id, lets, checks⟩
      else throw (spot.fault (.abstractRuleExtends id))
  else
    let context ← spot.compilePattern (← spot.attr e "context")
    return .rule ⟨⟨attr? e "id", context, lets, checks⟩, bases, spot.file⟩

/-- The wordings among elements. -/
def wordingsOf (file : Path) : List Tree → Except AuditError (List Wording)
  | [] => .ok []
  | .text _ _ :: rest => wordingsOf file rest
  | .element line e children :: rest => do
    if isNamed "diagnostic" e then
      let id ← (Spot.mk file line).attr e "id"
      let message ← messageOfAll file children
      return ⟨id, language? e, message⟩ :: (← wordingsOf file rest)
    else wordingsOf file rest

/-- What a reader of rule files sees beside them: the files, and where included ones are looked
up. -/
structure Reader where
  files : FileTree
  search : Artifact.SearchPath

/-- How deep inclusions may nest. -/
def includeLimit : Nat := 16

namespace Reader

variable (r : Reader)

/-- The reference that an inclusion makes: an address, or a path from the file that includes. -/
def systemId (file : Path) (href : String) : String :=
  if Artifact.isRemote href then href else ((Artifact.directoryOf file).child href).text

/-- The file that an element includes, with its tree. -/
def included (file : Path) (href : String) : Except AuditError (Path × Tree) := do
  let id := systemId file href
  match r.search.resolve? r.files id with
  | none => throw (.unresolvedReference id)
  | some path =>
    let source ← (r.files.read path).mapError .ofFile
    let tree ← (Tree.parse source).mapError fun m =>
      .invalidRuleSet path (AuditError.ofMalformed m).message
    return (path, tree)

/-- The items that a child of a pattern stands for, or that of the file which it includes. -/
def patternItems (file : Path) : Nat → Tree → Except AuditError (List PatternItem)
  | _, .text _ _ => .ok []
  | budget, .element line e children => do
    let spot : Spot := ⟨file, line⟩
    if isNamed "let" e then return [.binding (← spot.binding e)]
    else if isNamed "rule" e then return [← ruleOf spot e children]
    else if isNamed "include" e then
      let href ← spot.attr e "href"
      match budget with
      | 0 => throw (spot.fault (.includesTooDeep href))
      | budget + 1 =>
        let (path, tree) ← r.included file href
        patternItems path budget tree
    else return []

/-- The items of all children of a pattern. -/
def patternItemsOf (file : Path) (budget : Nat) : List Tree → Except AuditError (List PatternItem)
  | [] => .ok []
  | t :: ts => do
    let first ← r.patternItems file budget t
    return first ++ (← patternItemsOf file budget ts)

/-- The items that a child of a schema stands for, or that of the file which it includes. -/
def schemaItems (file : Path) : Nat → Tree → Except AuditError (List SchemaItem)
  | _, .text _ _ => .ok []
  | budget, .element line e children => do
    let spot : Spot := ⟨file, line⟩
    if isNamed "ns" e then
      let pre ← spot.attr e "prefix"
      return [.ns pre (← spot.attr e "uri")]
    else if isNamed "let" e then return [.binding (← spot.binding e)]
    else if isNamed "pattern" e then
      if attr? e "abstract" = some "true" ∨ (attr? e "is-a").isSome then
        throw (spot.fault .abstractPattern)
      else return [.pattern (attr? e "id") (← r.patternItemsOf file budget children)]
    else if isNamed "diagnostics" e then return [.wordings (← wordingsOf file children)]
    else if isNamed "include" e then
      let href ← spot.attr e "href"
      match budget with
      | 0 => throw (spot.fault (.includesTooDeep href))
      | budget + 1 =>
        let (path, tree) ← r.included file href
        schemaItems path budget tree
    else return []

/-- The items of all children of a schema. -/
def schemaItemsOf (file : Path) (budget : Nat) : List Tree → Except AuditError (List SchemaItem)
  | [] => .ok []
  | t :: ts => do
    let first ← r.schemaItems file budget t
    return first ++ (← schemaItemsOf file budget ts)

end Reader

end XmlAudit.Schematron
