import XmlAudit.Text.Quoted
import XmlAudit.XPath.Node
import XmlAudit.XPath.Number

/-!
# The values of path expressions

* `Value`: nodes, text, numbers and truth values, with their conversions.
* `Value.compare`: the comparisons, which hold of nodes if they hold of one of them.
-/

namespace XmlAudit.XPath

open Xml (Document)

/-- The value of an expression. -/
inductive Value where
  | nodes (ns : List Node)
  | text (s : String)
  | number (x : Float)
  | boolean (b : Bool)
deriving Inhabited

namespace Value

/-- The truth value of a value. -/
def toBoolean : Value → Bool
  | nodes ns => !ns.isEmpty
  | text s => s ≠ ""
  | number x => !(x == 0) && !x.isNaN
  | boolean b => b

/-- Whether there is a value: any but the empty set of nodes. -/
def isPresent : Value → Bool
  | nodes ns => !ns.isEmpty
  | _ => true

/-- The text of a value; of nodes it is that of the first one. -/
def toText (d : Document) : Value → String
  | nodes ns => (ns.head?.map (·.stringValue d)).getD ""
  | text s => s
  | number x => textOfNumber x
  | boolean b => if b then "true" else "false"

/-- The number of a value. -/
def toNumber (d : Document) : Value → Float
  | number x => x
  | boolean b => if b then 1 else 0
  | v => numberOfText (v.toText d)

/-- The nodes of a value that has to be a set of nodes. -/
def toNodes (user : String) : Value → Except EvalFault (List Node)
  | nodes ns => .ok ns
  | _ => .error (.nodesNeeded user)

/-- How a value that is no set of nodes is shown in a message. -/
def shown : Value → String
  | nodes _ => "NodeSet"
  | text s => "String(" ++ Text.quote s ++ ")"
  | number x => "Number(" ++ Number.Decimal.renderExponential x ++ ")"
  | boolean b => "Boolean(" ++ (if b then "true" else "false") ++ ")"

end Value

/-- A comparison of numbers. -/
def Comparison.holds (op : Comparison) (x y : Float) : Bool :=
  match op with
  | eq => x == y
  | ne => x != y
  | lt => x < y
  | le => x ≤ y
  | gt => x > y
  | ge => x ≥ y

/-- A comparison of texts; order is that of the numbers they spell. -/
def Comparison.holdsOfText (op : Comparison) (s t : String) : Bool :=
  match op with
  | eq => s = t
  | ne => s ≠ t
  | _ => op.holds (numberOfText s) (numberOfText t)

/-- Whether two values that are no sets of nodes are equal: as truth values if one is, as numbers if
one is, as texts otherwise. -/
def equalAtoms (d : Document) (a b : Value) : Bool :=
  match a, b with
  | .boolean _, _ | _, .boolean _ => a.toBoolean = b.toBoolean
  | .number _, _ | _, .number _ => a.toNumber d == b.toNumber d
  | _, _ => a.toText d = b.toText d

/-- A comparison of values that are no sets of nodes. -/
def Comparison.holdsOfAtoms (op : Comparison) (d : Document) (a b : Value) : Bool :=
  match op with
  | eq => equalAtoms d a b
  | ne => !equalAtoms d a b
  | _ => op.holds (a.toNumber d) (b.toNumber d)

/-- A comparison of nodes with a value: it holds if it does for one of the nodes, or with a truth
value for whether there are nodes. -/
def Comparison.holdsOfNodes (op : Comparison) (d : Document) (ns : List Node) (v : Value) : Bool :=
  match v with
  | .nodes ms =>
    let texts := ms.map (·.stringValue d)
    ns.any fun n =>
      let s := n.stringValue d
      texts.any (op.holdsOfText s)
  | .number x => ns.any fun n => op.holds (numberOfText (n.stringValue d)) x
  | .text s => ns.any fun n => op.holdsOfText (n.stringValue d) s
  | .boolean b => op.holdsOfAtoms d (.boolean !ns.isEmpty) (.boolean b)

/-- A comparison of two values. -/
def Value.compare (d : Document) (op : Comparison) (a b : Value) : Bool :=
  match a, b with
  | .nodes ns, _ => op.holdsOfNodes d ns b
  | _, .nodes ns => op.flipped.holdsOfNodes d ns a
  | _, _ => op.holdsOfAtoms d a b

/-- The result of an arithmetic operator. -/
def Arithmetic.apply (op : Arithmetic) (x y : Float) : Float :=
  match op with
  | add => x + y
  | subtract => x - y
  | multiply => x * y
  | divide => x / y
  | modulo => Number.Double.remainder x y

end XmlAudit.XPath
