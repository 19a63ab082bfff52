import XmlAudit.XPath.Eval
import XmlAudit.XPath.Parser

/-!
# Compiled expressions

* `Query.compile`: an expression together with its source.
* `Query.compilePattern`: a pattern made an expression that selects every matching node from the
  root.
* `Query.evaluate`, `Query.select`: the value at a node, and the nodes that it has to be.
-/

namespace XmlAudit.XPath

/-- An expression and the text from which it was read. -/
structure Query where
  source : String
  expr : Expr

/-- An expression that could not be read or evaluated, and why. -/
structure Failure where
  expression : String
  details : String
deriving DecidableEq, Repr

/-- How a failure is worded. -/
def Failure.message (f : Failure) : String :=
  "Invalid path expression `" ++ f.expression ++ "`: " ++ f.details

/-- The expression that selects from the root what matches a pattern: relative paths start at any
depth. Only paths, filtered expressions and unions of patterns are patterns. -/
def Expr.anchor? : Expr → Option Expr
  | .union left right =>
    match left.anchor?, right.anchor? with
    | some l, some r => some (.union l r)
    | _, _ => none
  | .path false steps => some (.path true (.anyDepth :: steps))
  | .path true steps => some (.path true steps)
  | .filter primary predicates steps => some (.filter primary predicates steps)
  | _ => none

namespace Query

/-- The expression that a text spells. -/
def compile (source : String) : Except Failure Query :=
  match Expr.parse source with
  | .ok e => .ok ⟨source, e⟩
  | .error e => .error ⟨source, e.message⟩

/-- The wording for an expression that is no pattern. -/
def notAPattern : String := "a pattern must be a location path or a union of location paths"

/-- The pattern that a text spells. -/
def compilePattern (source : String) : Except Failure Query := do
  let query ← compile source
  match query.expr.anchor? with
  | some e => return ⟨source, e⟩
  | none => throw ⟨source, notAPattern⟩

variable (c : Context) (q : Query) (n : Node)

/-- The value of an expression at a node. -/
def evaluate : Except Failure Value :=
  (q.expr.eval c (.on n)).mapError fun fault => ⟨q.source, fault.message⟩

/-- The nodes that an expression selects from a node. -/
def select : Except Failure (List Node) := do
  match ← q.evaluate c n with
  | .nodes ns => return ns
  | v => throw ⟨q.source, "expected a node-set, got " ++ v.shown⟩

/-- The truth value of an expression at a node. -/
def evaluateBoolean : Except Failure Bool := (q.evaluate c n).map Value.toBoolean

/-- The text of an expression at a node. -/
def evaluateText : Except Failure String := (q.evaluate c n).map (Value.toText c.document)

end Query

end XmlAudit.XPath
