import XmlAudit.Files.Path
import XmlAudit.XPath.Query

/-!
# Rule sets

* `RuleSet`: patterns of rules, each rule with the checks for the nodes that match its context.
* `MessagePart`: a piece of a message.
* `RuleSet.wording?`: the wording of a check in a language.
-/

namespace XmlAudit.Schematron

open XPath (Query)

/-- A variable and the expression of its value. -/
structure Binding where
  name : String
  value : Query

/-- A piece of a message: a text, the text of an expression, or the name of a node, which may be
another one than that under test. -/
inductive MessagePart where
  | text (s : String)
  | valueOf (expression : Query)
  | nodeName (path : Option Query)

/-- Whether a check finds fault if its test fails or if it holds. -/
inductive CheckKind where
  | assert
  | report
deriving DecidableEq, Repr

/-- A test with the message for the case that it finds fault; `wordings` names the wordings in
other languages. -/
structure Check where
  kind : CheckKind
  id : Option String
  role : Option String
  flag : Option String
  test : Query
  message : List MessagePart
  wordings : List String

/-- Checks for the nodes that match a context, with variables for them. -/
structure Rule where
  id : Option String
  context : Query
  lets : List Binding
  checks : List Check

/-- Rules of which the first one that matches a node applies to it. -/
structure Pattern where
  id : Option String
  lets : List Binding
  rules : List Rule

/-- The wording of a check in a language. -/
structure Wording where
  id : String
  lang : Option String
  message : List MessagePart

/-- The rules of a file and of the files that it includes. -/
structure RuleSet where
  source : Files.Path
  namespaces : List (String × String)
  lets : List Binding
  patterns : List Pattern
  wordings : List Wording

namespace RuleSet

/-- The last wording of an id. -/
def wording? (r : RuleSet) (id : String) : Option Wording :=
  r.wordings.reverse.find? (·.id = id)

/-- The number of rules. -/
def ruleCount (r : RuleSet) : Nat := Text.total (r.patterns.map (·.rules.length))

end RuleSet

end XmlAudit.Schematron
