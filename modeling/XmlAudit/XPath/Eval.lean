import XmlAudit.Regex.Search
import XmlAudit.Text.Case
import XmlAudit.XPath.Value

/-!
# Evaluating path expressions

* `Context`: what an expression sees beside the node that it is evaluated at.
* `Function.apply`: the value of a function call, given those of its arguments.
* `Expr.eval`: the value of an expression.
-/

namespace XmlAudit.XPath

open Xml (Document Namespaces)

/-- What an expression sees beside its context node: the values of variables, the latest binding of
a name first, and the node that `current()` gives. -/
structure Context where
  document : Document
  namespaces : Namespaces
  bindings : List (String × Value)
  current : Node

/-- The document node. -/
def rootNode : Node := .tree Document.root

/-- The context node with its position in the list that is being filtered, and the length of that
list. -/
structure Focus where
  node : Node
  position : Nat
  size : Nat

/-- The focus on a node alone. -/
def Focus.on (n : Node) : Focus := ⟨n, 1, 1⟩

/-! ## Functions -/

/-- The texts before and behind the first occurrence of a text. -/
def splitAtText (part : List Char) : List Char → Option (List Char × List Char)
  | [] => if part.isEmpty then some ([], []) else none
  | c :: cs =>
    if part.isPrefixOf (c :: cs) then some ([], (c :: cs).drop part.length)
    else (splitAtText part cs).map fun r => (c :: r.1, r.2)

/-- The text before the first occurrence of another, empty if there is none. -/
def textBefore (s part : String) : String :=
  match splitAtText part.toList s.toList with
  | some (before, _) => String.ofList before
  | none => ""

/-- The text behind the first occurrence of another, empty if there is none. -/
def textAfter (s part : String) : String :=
  match splitAtText part.toList s.toList with
  | some (_, after) => String.ofList after
  | none => ""

/-- The characters whose position, counted from `position`, is at least `first` and below `stop`. -/
def charsWithin (first stop : Float) : Nat → List Char → List Char
  | _, [] => []
  | position, c :: cs =>
    let x := Float.ofNat position
    let later := charsWithin first stop (position + 1) cs
    if x ≥ first && x < stop then c :: later else later

/-- Every character of `source` replaced by the one at its place in `target`, or dropped where there
is none. -/
def translateChars (source target : List Char) (cs : List Char) : List Char :=
  cs.flatMap fun c =>
    match source.idxOf? c with
    | some i => target[i]?.toList
    | none => [c]

/-- The value beyond all numbers. -/
def infinity : Float := 1.0 / 0.0

/-- The sum of numbers, minus zero where there are none. -/
def sumOf (xs : List Float) : Float := xs.foldl (· + ·) (-0.0)

/-- Whether a pattern occurs in a text, under the flags of some letters. -/
def occursPattern (s pattern flags : String) : Except EvalFault Value :=
  match Regex.parse? flags pattern with
  | some r => .ok (.boolean (Regex.occursIn r s))
  | none => .error .invalidRegex

/-- The wording for an argument that has to be nodes. -/
def argumentUser : String := "function argument"

/-- The value of a function call, given those of its arguments. -/
def Function.apply (c : Context) (focus : Focus) (f : Function) (args : List Value) :
    Except EvalFault Value :=
  let d := c.document
  let text (v : Value) : String := v.toText d
  let nodes (v : Value) : Except EvalFault (List Node) := v.toNodes argumentUser
  let ofFirst (g : Node → Option String) (v : Value) : Except EvalFault Value := do
    return .text (((← nodes v).head?.bind g).getD "")
  let ofFocus (g : Node → Option String) : Except EvalFault Value :=
    .ok (.text ((g focus.node).getD ""))
  let localPart (n : Node) : Option String := (n.name? d).map (·.localPart)
  let qualified (n : Node) : Option String := (n.name? d).map (·.render)
  -- where an argument can be left out, the node in focus stands for it
  match f, args with
  | .last, _ => .ok (.number (Float.ofNat focus.size))
  | .position, _ => .ok (.number (Float.ofNat focus.position))
  | .count, v :: _ => do return .number (Float.ofNat (← nodes v).length)
  | .localName, [] => ofFocus localPart
  | .localName, v :: _ => ofFirst localPart v
  | .namespaceUri, [] => ofFocus (·.uri? d)
  | .namespaceUri, v :: _ => ofFirst (·.uri? d) v
  | .name, [] => ofFocus qualified
  | .name, v :: _ => ofFirst qualified v
  | .string, [] => .ok (.text (focus.node.stringValue d))
  | .string, v :: _ => .ok (.text (text v))
  | .concat, vs => .ok (.text (String.join (vs.map text)))
  | .startsWith, v :: w :: _ => .ok (.boolean ((text w).toList.isPrefixOf (text v).toList))
  | .endsWith, v :: w :: _ =>
    .ok (.boolean ((text w).toList.reverse.isPrefixOf (text v).toList.reverse))
  | .contains, v :: w :: _ =>
    .ok (.boolean (splitAtText (text w).toList (text v).toList).isSome)
  | .substringBefore, v :: w :: _ => .ok (.text (textBefore (text v) (text w)))
  | .substringAfter, v :: w :: _ => .ok (.text (textAfter (text v) (text w)))
  | .substring, [v, w] =>
    let first := roundHalfUp (w.toNumber d)
    .ok (.text (String.ofList (charsWithin first infinity 1 (text v).toList)))
  | .substring, v :: w :: x :: _ =>
    let first := roundHalfUp (w.toNumber d)
    let stop := first + roundHalfUp (x.toNumber d)
    .ok (.text (String.ofList (charsWithin first stop 1 (text v).toList)))
  | .stringLength, [] => .ok (.number (Float.ofNat (focus.node.stringValue d).length))
  | .stringLength, v :: _ => .ok (.number (Float.ofNat (text v).length))
  | .normalizeSpace, [] => .ok (.text (Text.squeeze (focus.node.stringValue d)))
  | .normalizeSpace, v :: _ => .ok (.text (Text.squeeze (text v)))
  | .translate, v :: w :: x :: _ =>
    .ok (.text (String.ofList
      (translateChars (text w).toList (text x).toList (text v).toList)))
  | .upperCase, v :: _ => .ok (.text (Text.uppercase (text v)))
  | .lowerCase, v :: _ => .ok (.text (Text.lowercase (text v)))
  | .matches, [v, w] => occursPattern (text v) (text w) ""
  | .matches, v :: w :: x :: _ => occursPattern (text v) (text w) (text x)
  | .stringJoin, [v] => do
    return .text (String.join ((← nodes v).map (·.stringValue d)))
  | .stringJoin, v :: w :: _ => do
    return .text ((text w).intercalate ((← nodes v).map (·.stringValue d)))
  | .boolean, v :: _ => .ok (.boolean v.toBoolean)
  | .not, v :: _ => .ok (.boolean !v.toBoolean)
  | .true, _ => .ok (.boolean Bool.true)
  | .false, _ => .ok (.boolean Bool.false)
  | .exists, v :: _ => .ok (.boolean v.isPresent)
  | .empty, v :: _ => .ok (.boolean !v.isPresent)
  | .number, [] => .ok (.number (numberOfText (focus.node.stringValue d)))
  | .number, v :: _ => .ok (.number (v.toNumber d))
  | .sum, v :: _ => do
    return .number (sumOf ((← nodes v).map fun n => numberOfText (n.stringValue d)))
  | .floor, v :: _ => .ok (.number (v.toNumber d).floor)
  | .ceiling, v :: _ => .ok (.number (v.toNumber d).ceil)
  | .round, v :: _ => .ok (.number (roundHalfUp (v.toNumber d)))
  | .current, _ => .ok (.nodes [c.current])
  | f, _ => .error (.missingArgument f.label)

/-- The values of evaluated arguments, or the fault that counts: the first one, but the last one for
the function that looks at its second argument first. -/
def Function.collect (f : Function) (results : List (Except EvalFault Value)) :
    Except EvalFault (List Value) :=
  if f = .stringJoin then do return (← results.reverse.mapM id).reverse else results.mapM id

/-! ## Expressions -/

/-- The nodes of a list that a condition on the focus holds of; `position` is that of the first. -/
def filterFrom (holds : Focus → Except EvalFault Bool) (size : Nat) :
    Nat → List Node → Except EvalFault (List Node)
  | _, [] => .ok []
  | position, n :: ns => do
    let keep ← holds ⟨n, position, size⟩
    let later ← filterFrom holds size (position + 1) ns
    return if keep then n :: later else later

/-- What the value of a predicate says about a node: a number asks for its position. -/
def Value.keeps (v : Value) (position : Nat) : Bool :=
  match v with
  | .number x => x == Float.ofNat position
  | v => v.toBoolean

/-- The nodes along an axis that satisfy a node test, the nearest first. -/
def candidates (c : Context) (axis : Axis) (test : NodeTest) (n : Node) :
    Except EvalFault (List Node) :=
  (n.along c.document axis).filterM (Node.satisfies c.document c.namespaces axis test)

mutual

/-- The value of an expression at a focus. -/
def Expr.eval (c : Context) : Expr → Focus → Except EvalFault Value
  | .or left right, focus => do
    if (← left.eval c focus).toBoolean then return .boolean true
    else return .boolean (← right.eval c focus).toBoolean
  | .and left right, focus => do
    if (← left.eval c focus).toBoolean then return .boolean (← right.eval c focus).toBoolean
    else return .boolean false
  | .compare op left right, focus => do
    let a ← left.eval c focus
    let b ← right.eval c focus
    return .boolean (Value.compare c.document op a b)
  | .arithmetic op left right, focus => do
    let a ← left.eval c focus
    let b ← right.eval c focus
    return .number (op.apply (a.toNumber c.document) (b.toNumber c.document))
  | .negate operand, focus => do
    let a ← operand.eval c focus
    return .number (-(a.toNumber c.document))
  | .union left right, focus => do
    let a ← (← left.eval c focus).toNodes "|"
    let b ← (← right.eval c focus).toNodes "|"
    return .nodes (inOrder (a ++ b))
  | .path absolute steps, focus => do
    return .nodes (← walk c steps [if absolute then rootNode else focus.node])
  | .filter primary predicates steps, focus => do
    let nodes ← (← primary.eval c focus).toNodes "a predicate or path step"
    let kept ← keepAll c predicates nodes
    return .nodes (← walk c steps kept)
  | .literal s, _ => .ok (.text s)
  | .number x, _ => .ok (.number x)
  | .variable name, _ =>
    match c.bindings.lookup name with
    | some v => .ok v
    | none => .error (.unboundVariable name)
  | .call f arguments, focus => do
    f.apply c focus (← f.collect (evalEach c arguments focus))

/-- The outcomes of several expressions. -/
def evalEach (c : Context) : List Expr → Focus → List (Except EvalFault Value)
  | [], _ => []
  | e :: es, focus => e.eval c focus :: evalEach c es focus

/-- The nodes that pass every predicate, each of which counts positions among those that passed the
ones before it. -/
def keepAll (c : Context) : List Expr → List Node → Except EvalFault (List Node)
  | [], nodes => .ok nodes
  | e :: es, nodes => do
    let kept ← filterFrom (fun focus => do return (← e.eval c focus).keeps focus.position)
      nodes.length 1 nodes
    keepAll c es kept

/-- The nodes that a step leads to from one node, the nearest first. -/
def Step.from (c : Context) : Step → Node → Except EvalFault (List Node)
  | .mk axis test predicates, n => do
    keepAll c predicates (← candidates c axis test n)

/-- The nodes that steps lead to, after each step in document order. -/
def walk (c : Context) : List Step → List Node → Except EvalFault (List Node)
  | [], nodes => .ok nodes
  | s :: rest, nodes => do
    let reached ← nodes.mapM (fun n => s.from c n)
    walk c rest (inOrder reached.flatten)

end

end XmlAudit.XPath
