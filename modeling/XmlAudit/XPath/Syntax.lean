/-!
# Path expressions

* `Expr`, `Step`: the syntax trees of XPath 1.0 expressions and their location steps.
* `Function`: the functions that can be called, with the argument counts that they take.

Beside the name tests of XPath 1.0 there is `*:name`, a local name in any namespace.
-/

namespace XmlAudit.XPath

/-- The comparison operators. -/
inductive Comparison where
  | eq
  | ne
  | lt
  | le
  | gt
  | ge
deriving DecidableEq, Repr

/-- The operator that compares swapped operands. -/
def Comparison.flipped : Comparison → Comparison
  | lt => gt
  | le => ge
  | gt => lt
  | ge => le
  | op => op

/-- The arithmetic operators. -/
inductive Arithmetic where
  | add
  | subtract
  | multiply
  | divide
  | modulo
deriving DecidableEq, Repr

/-- The directions in which a step looks for nodes. -/
inductive Axis where
  | child
  | descendant
  | descendantOrSelf
  | parent
  | ancestor
  | ancestorOrSelf
  | followingSibling
  | precedingSibling
  | following
  | preceding
  | attributes
  | self
deriving DecidableEq, Repr

namespace Axis

/-- Every axis. -/
def all : List Axis :=
  [child, descendant, descendantOrSelf, parent, ancestor, ancestorOrSelf, followingSibling,
    precedingSibling, following, preceding, attributes, self]

/-- The name of an axis in an expression. -/
def name : Axis → String
  | child => "child"
  | descendant => "descendant"
  | descendantOrSelf => "descendant-or-self"
  | parent => "parent"
  | ancestor => "ancestor"
  | ancestorOrSelf => "ancestor-or-self"
  | followingSibling => "following-sibling"
  | precedingSibling => "preceding-sibling"
  | following => "following"
  | preceding => "preceding"
  | attributes => "attribute"
  | self => "self"

/-- The axis of a name. -/
def ofName? (s : String) : Option Axis := all.find? (·.name = s)

end Axis

/-- A condition on names. -/
inductive NameTest where
  /-- Any name. -/
  | any
  /-- A name, in the namespace of its qualifier or in none. -/
  | name (qualifier : Option String) (localPart : String)
  /-- Any name in the namespace of a qualifier. -/
  | anyIn (qualifier : String)
  /-- A local name in any namespace. -/
  | anywhere (localPart : String)
deriving DecidableEq, Repr

/-- The written form of a name test. -/
def NameTest.render : NameTest → String
  | any => "*"
  | name none l => l
  | name (some q) l => q ++ ":" ++ l
  | anyIn q => q ++ ":*"
  | anywhere l => "*:" ++ l

/-- What follows the last colon of a name test. -/
def NameTest.lastPart : NameTest → String
  | any => "*"
  | name _ l => l
  | anyIn _ => "*"
  | anywhere l => l

/-- A condition on nodes. -/
inductive NodeTest where
  | named (test : NameTest)
  | node
  | text
deriving DecidableEq, Repr

/-- The functions that can be called. -/
inductive Function where
  | last
  | position
  | count
  | localName
  | namespaceUri
  | name
  | string
  | concat
  | startsWith
  | endsWith
  | contains
  | substringBefore
  | substringAfter
  | substring
  | stringLength
  | normalizeSpace
  | translate
  | upperCase
  | lowerCase
  | matches
  | stringJoin
  | boolean
  | not
  | true
  | false
  | exists
  | empty
  | number
  | sum
  | floor
  | ceiling
  | round
  | current
deriving DecidableEq, Repr

namespace Function

/-- Every function. -/
def all : List Function :=
  [last, position, count, localName, namespaceUri, name, string, concat, startsWith, endsWith,
    contains, substringBefore, substringAfter, substring, stringLength, normalizeSpace, translate,
    upperCase, lowerCase, «matches», stringJoin, boolean, not, true, false, «exists», empty, number,
    sum, floor, ceiling, round, current]

/-- The name under which a function is called. -/
def label : Function → String
  | last => "last"
  | position => "position"
  | count => "count"
  | localName => "local-name"
  | namespaceUri => "namespace-uri"
  | name => "name"
  | string => "string"
  | concat => "concat"
  | startsWith => "starts-with"
  | endsWith => "ends-with"
  | contains => "contains"
  | substringBefore => "substring-before"
  | substringAfter => "substring-after"
  | substring => "substring"
  | stringLength => "string-length"
  | normalizeSpace => "normalize-space"
  | translate => "translate"
  | upperCase => "upper-case"
  | lowerCase => "lower-case"
  | «matches» => "matches"
  | stringJoin => "string-join"
  | boolean => "boolean"
  | not => "not"
  | true => "true"
  | false => "false"
  | «exists» => "exists"
  | empty => "empty"
  | number => "number"
  | sum => "sum"
  | floor => "floor"
  | ceiling => "ceiling"
  | round => "round"
  | current => "current"

/-- The function of a name. -/
def ofLabel? (s : String) : Option Function := all.find? (·.label = s)

/-- The least number of arguments and, if there is one, the greatest. -/
def arity : Function → Nat × Option Nat
  | last | position | true | false | current => (0, some 0)
  | localName | namespaceUri | name | string | stringLength | normalizeSpace | number =>
    (0, some 1)
  | count | upperCase | lowerCase | boolean | not | «exists» | empty | sum | floor | ceiling
  | round => (1, some 1)
  | stringJoin => (1, some 2)
  | startsWith | endsWith | contains | substringBefore | substringAfter => (2, some 2)
  | substring | «matches» => (2, some 3)
  | translate => (3, some 3)
  | concat => (2, none)

/-- Whether a function takes `n` arguments. -/
def accepts (f : Function) (n : Nat) : Bool :=
  f.arity.1 ≤ n && match f.arity.2 with
    | some most => n ≤ most
    | none => Bool.true

end Function

mutual

/-- An expression. -/
inductive Expr where
  | or (left right : Expr)
  | and (left right : Expr)
  | compare (op : Comparison) (left right : Expr)
  | arithmetic (op : Arithmetic) (left right : Expr)
  | negate (operand : Expr)
  | union (left right : Expr)
  /-- Location steps from the root or from the context node. -/
  | path (absolute : Bool) (steps : List Step)
  /-- The nodes of an expression, filtered by predicates, and location steps from them. -/
  | filter (primary : Expr) (predicates : List Expr) (steps : List Step)
  | literal (text : String)
  | number (value : Float)
  | variable (name : String)
  | call (function : Function) (arguments : List Expr)

/-- A location step: where to look, for which nodes, and what they have to satisfy. -/
inductive Step where
  | mk (axis : Axis) (test : NodeTest) (predicates : List Expr)

end

namespace Step

/-- The axis of a step. -/
def axis : Step → Axis
  | mk a _ _ => a

/-- The node test of a step. -/
def test : Step → NodeTest
  | mk _ t _ => t

/-- The predicates of a step. -/
def predicates : Step → List Expr
  | mk _ _ ps => ps

/-- The step that stands between two slashes. -/
def anyDepth : Step := mk .descendantOrSelf .node []

/-- The step of a dot. -/
def here : Step := mk .self .node []

/-- The step of two dots. -/
def up : Step := mk .parent .node []

end Step

instance : Inhabited Expr := ⟨.literal ""⟩

end XmlAudit.XPath
