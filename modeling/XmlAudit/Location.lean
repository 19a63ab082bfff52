import XmlAudit.Text.Replace
import XmlAudit.XPath.Query

/-!
# The places of findings

A rule engine tells where a finding is by a path. Paths of the raw engine count positions from 0 and
leave out the prefix of the default namespace.

* `shiftPositions`: positions counted from 1.
* `Locator.translate`: a path as a path expression.
* `Locator.lineOf`: the line of the one node that a path leads to, or else 0.
* `Locator.render`: a place as it is reported.
-/

namespace XmlAudit

open Xml (Document Namespaces)

open Text (ReplaceRule)

namespace Location

/-- The name under which the checked document appears in places. -/
def inputName : String := "XML"

/-- A line and a column of the checked document. -/
def inInput (line column : Nat) : String :=
  inputName ++ ":" ++ toString line ++ ":" ++ toString column

/-- How the place of a finding is reported: as a path, or as a line with or without the path. -/
structure Policy where
  asPath : Bool
  showPaths : Bool
deriving DecidableEq, Repr, Inhabited

/-- The position after one of 64 bits, for digits that spell such a position. -/
def nextPosition? (digits : List Char) : Option (List Char) :=
  if !digits.isEmpty && digits.all Char.isDigit then
    let n : Nat := digits.foldl (fun n c => n * 10 + (c.toNat - 48)) 0
    if n < UInt64.size then some (Nat.toDigits 10 (UInt64.ofNat n + 1).toNat) else none
  else none

/-- A position in brackets is counted up by one. -/
def shiftRule : ReplaceRule
  | '[' :: cs =>
    let digits := cs.takeWhile Text.isDecimal
    match cs.dropWhile Text.isDecimal with
    | ']' :: _ =>
      (nextPosition? digits).map fun next => ('[' :: next ++ [']'], digits.length + 2)
    | _ => none
  | _ => none

/-- The path with positions counted from 1 in place of 0. -/
def shiftPositions (path : String) : String := Text.replaceMatches shiftRule path

/-- The part of a text in quotes up to a closing bracket: any characters but brackets between the
quotes, blanks behind them. The result is the number of characters up to the bracket. -/
def quotedToBracket? (cs : List Char) : Option Nat :=
  match cs with
  | quote :: rest =>
    let inner := rest.takeWhile fun c => c ≠ '[' && c ≠ ']'
    let kept := Text.trimEnd inner
    if (quote = '\'' ∨ quote = '"') ∧ (rest.drop inner.length).head? = some ']' ∧
        kept.length ≥ 2 ∧ kept.getLast? = some quote then some (inner.length + 1)
    else none
  | [] => none

/-- A predicate that asks for a namespace is left out. -/
def namespacePredicateRule : ReplaceRule := fun cs => do
  let a ← Text.dropWord ['['] cs
  let b ← Text.dropWord "namespace-uri()".toList (Text.trimStart a)
  let c ← Text.dropWord ['='] (Text.trimStart b)
  let d := Text.trimStart c
  let n ← quotedToBracket? d
  return ([], cs.length - d.length + n + 1)

/-- The path as shown to readers: without `*:` and without predicates that ask for a namespace. -/
def presentationPath (path : String) : String :=
  Text.replaceMatches namespacePredicateRule (Text.replaceAll "*:" "" path)

/-- Whether a step tests for a kind of node, by parentheses before any predicate. -/
def testsKind (step : List Char) : Bool := (step.takeWhile (· ≠ '[')).contains '('

/-- Whether a step names an element without a prefix. -/
def namesUnprefixed (step : List Char) : Bool :=
  !(step.isEmpty || step.contains ':' || step.head? = some '@' || step = ['.'] || testsKind step)

/-- The path with every unprefixed element step made one for any namespace; none if there is no such
step. -/
def wildcardPath? (path : String) : Option String :=
  let steps := Text.splitFrom '/' [] path.toList
  if steps.any namesUnprefixed then
    some ("/".intercalate (steps.map fun step =>
      String.ofList (if namesUnprefixed step then '*' :: ':' :: step else step)))
  else none

/-- A character of a step's name. -/
def isStepChar (c : Char) : Bool := Text.isWordChar c || c = '-'

/-- An unprefixed step behind a slash gets the prefix of the default namespace. -/
def defaultPrefixRule : ReplaceRule
  | '/' :: cs =>
    let name := cs.takeWhile isStepChar
    match cs.dropWhile isStepChar with
    -- a prefix or an axis, and a test for a kind of node
    | ':' :: _ => none
    | '(' :: _ => none
    | _ =>
      if name.isEmpty then none
      else some ('/' :: Namespaces.defaultPrefix.toList ++ ':' :: name, name.length + 1)
  | _ => none

/-- What finds the places of findings in a document: `engine` tells that paths are those of the raw
rule engine. -/
structure Locator where
  document : Document
  engine : Bool

namespace Locator

/-- Whether the document element declares a default namespace. -/
def hasDefaultNamespace (k : Locator) : Bool :=
  match k.document.element? Document.documentElement with
  | some e => e.declarations.any (·.1.isNone)
  | none => false

/-- A path of the engine as a path expression; for looking it up, steps without prefix are taken to
be in the default namespace. -/
def translate (k : Locator) (path : String) (forLookup : Bool) : String :=
  if k.engine then
    let shifted := shiftPositions path
    if forLookup && k.hasDefaultNamespace then Text.replaceMatches defaultPrefixRule shifted
    else shifted
  else path

/-- The nodes that a path expression selects, with the prefixes of the document element. -/
def select (k : Locator) (path : String) : Except XPath.Failure (List XPath.Node) := do
  let query ← XPath.Query.compile path
  query.select ⟨k.document, .ofDocument k.document false, [], XPath.rootNode⟩ XPath.rootNode

/-- The line of the node that a path expression selects, if it is one node. -/
def uniqueLine? (k : Locator) (path : String) : Option Nat :=
  match k.select path with
  | .ok [n] => some (n.line k.document)
  | _ => none

/-- **The line of the node that a path leads to,** in the namespaces of the document element or else
in any, and 0 where it is not one node. -/
def lineOf (k : Locator) (path : String) : Nat :=
  match k.uniqueLine? (k.translate path true) with
  | some line => line
  | none => (((wildcardPath? (k.translate path false)).bind k.uniqueLine?)).getD 0

/-- The place that a path leads to as it is reported. -/
def render (k : Locator) (path : String) (policy : Policy) : String :=
  let display := presentationPath (k.translate path false)
  if policy.asPath then display
  else
    let place := inInput (k.lineOf path) 0
    if policy.showPaths then place ++ "|" ++ display else place

end Locator

end Location

end XmlAudit
