import XmlAudit.Regex.Class.Folding
import XmlAudit.Regex.Syntax

/-!
# Regular expressions

* `Regex`: regular expressions over sets of characters, with assertions about places in a text.
* `Regex.concat`, `Regex.anyOf`, `Regex.times`: expressions put together in their plainest form.
* `Flags`: the switches under which a pattern is read.
* `Pattern.meaning?`: the expression that a pattern stands for.

What an expression matches is always a run of whole characters: a pattern that speaks of bytes may
name ASCII characters only.
-/

namespace XmlAudit.Regex

/-- A condition on a place in a text. -/
inductive Assertion where
  | textStart
  | textEnd
  /-- After a line terminator; with `crlf` a carriage return is one too. -/
  | lineStart (crlf : Bool)
  | lineEnd (crlf : Bool)
  /-- At the edge of a word; `ascii` tells whether words have ASCII characters only. -/
  | word (edge : WordEdge) (ascii : Bool)
deriving DecidableEq, Repr

end XmlAudit.Regex

/-- A regular expression; a repetition without greatest count has no limit. -/
inductive XmlAudit.Regex where
  | empty
  | text (cs : List Char)
  | set (s : Text.CharSet)
  | assertion (a : Regex.Assertion)
  /-- An expression whose match is kept. -/
  | capture (r : Regex)
  | seq (a b : Regex)
  | alt (a b : Regex)
  | repeated (r : Regex) (least : Nat) (most : Option Nat)

namespace XmlAudit.Regex

open Text (CharSet)

/-- The expression of a set; a set of one character is a text. -/
def ofSet (s : CharSet) : Regex :=
  match s.only? with
  | some c => text [c]
  | none => set s

/-- What an expression matches one after the other; nothing for the empty expression. -/
def parts : Regex → List Regex
  | empty => []
  | seq a b => a.parts ++ b.parts
  | r => [r]

/-- What an expression has a choice of. -/
def choices : Regex → List Regex
  | alt a b => a.choices ++ b.choices
  | r => [r]

/-- Texts next to each other become one. -/
def joinTexts : List Regex → List Regex
  | [] => []
  | r :: rest =>
    match r, joinTexts rest with
    | text a, text b :: rest => text (a ++ b) :: rest
    | r, rest => r :: rest

/-- Expressions one after the other. -/
def concat (rs : List Regex) : Regex :=
  match joinTexts (rs.flatMap parts) with
  | [] => empty
  | r :: rest => (r :: rest).dropLast.foldr seq ((r :: rest).getLast (by simp))

/-- The set of an expression that matches single characters. -/
def chars? : Regex → Option CharSet
  | set s => some s
  | text [c] => some (.single c)
  | _ => none

/-- A choice of expressions; a choice of characters is a set. -/
def anyOf (rs : List Regex) : Regex :=
  let rs := rs.flatMap choices
  match rs.mapM chars? with
  | some sets => ofSet (sets.foldl CharSet.union .none)
  | none =>
    match rs with
    | [] => set .none
    | r :: rest => (r :: rest).dropLast.foldr alt ((r :: rest).getLast (by simp))

/-- Whether an expression matches nothing but the empty text. -/
def isBlank : Regex → Bool
  | empty | assertion _ => true
  | text _ | set _ => false
  | capture r => r.isBlank
  | seq a b | alt a b => a.isBlank && b.isBlank
  | repeated r _ _ => r.isBlank

/-- A repetition. One of an expression that matches nothing but the empty text counts once. -/
def times (r : Regex) (least : Nat) (most : Option Nat) : Regex :=
  let (least, most) :=
    if r.isBlank then (min least 1, some (min (most.getD 1) 1)) else (least, most)
  if least = 0 ∧ most = some 0 then empty
  else if least = 1 ∧ most = some 1 then r
  else repeated r least most

/-- The switches under which a pattern is read: letters of any case match, `^` and `$` match at
lines, a dot matches line feeds, carriage returns end lines, and characters count and not bytes. -/
structure Flags where
  anyCase : Bool
  multiLine : Bool
  dotAll : Bool
  crlf : Bool
  chars : Bool

namespace Flags

/-- One flag switched on or off. -/
def switch (f : Flags) : Flag × Bool → Flags
  | (.anyCase, on) => { f with anyCase := on }
  | (.multiLine, on) => { f with multiLine := on }
  | (.dotAll, on) => { f with dotAll := on }
  | (.crlf, on) => { f with crlf := on }
  | (.chars, on) => { f with chars := on }
  | (.lazy, _) | (.verbose, _) => f

/-- Flags after a change. -/
def after (f : Flags) (change : FlagChange) : Flags := change.foldl switch f

/-- A set, with all forms of its letters if case is ignored. -/
def fold (f : Flags) (s : CharSet) : CharSet :=
  if !f.anyCase then s
  else if f.chars then Regex.anyCase s
  else s.union ((Regex.anyCase s).inter (.range 0 127))

/-- A set or its complement. There is no complement where bytes count, because it would hold bytes
that are no characters. -/
def negate? (f : Flags) (negated : Bool) (s : CharSet) : Option CharSet :=
  if negated then (if f.chars then some s.complement else none) else some s

/-- The set of a class with a letter of its own. -/
def letterSet? (f : Flags) (negated : Bool) (kind : LetterClass) : Option CharSet :=
  let name := match kind with
    | .digit => "digit"
    | .blank => "space"
    | .word => "word"
  let s := match kind with
    | .digit => digits
    | .blank => blanks
    | .word => wordChars
  (if f.chars then some s else asciiClass? name).bind (f.negate? negated)

/-- The set of a named class. -/
def namedSet? (f : Flags) (negated : Bool) (query : ClassQuery) : Option CharSet := do
  guard f.chars
  f.negate? negated (f.fold (← query.find?))

/-- The set of a dot. -/
def dot? (f : Flags) : Option CharSet :=
  if !f.chars then none
  else if f.dotAll then some .all
  else if f.crlf then some (CharSet.complement ⟨[(10, 10), (13, 13)]⟩)
  else some (CharSet.complement (.range 10 10))

/-- The expression of a character. A byte must be an ASCII character. -/
def literal? (f : Flags) (l : Literal) : Option Regex :=
  if f.chars then
    some (if f.anyCase && hasCase l.char then ofSet (f.fold (.single l.char))
      else text [l.char])
  else if l.byte && 128 ≤ l.char.toNat then none
  else some (if l.char.toNat < 128 then ofSet (f.fold (.single l.char)) else text [l.char])

/-- The assertion of a mark. -/
def assertion (f : Flags) : Mark → Assertion
  | .lineStart => if f.multiLine then .lineStart f.crlf else .textStart
  | .lineEnd => if f.multiLine then .lineEnd f.crlf else .textEnd
  | .textStart => .textStart
  | .textEnd => .textEnd
  | .word edge => .word edge !f.chars

end Flags

/-- An operator applied to two sets. -/
def SetOperator.apply : SetOperator → CharSet → CharSet → CharSet
  | inter, a, b => a.inter b
  | diff, a, b => a.diff b
  | symmetricDiff, a, b => a.symmetricDiff b

/-- The set of a character in brackets, which must be an ASCII one where bytes count. -/
def Literal.set? (f : Flags) (l : Literal) : Option CharSet :=
  if f.chars || l.char.toNat < 128 then some (.single l.char) else none

mutual

/-- The set of what stands in brackets. Operators ignore case on both sides before they apply. -/
def ClassSet.members? (f : Flags) : ClassSet → Option CharSet
  | literal l => l.set? f
  | range a b => do
    let _ ← a.set? f
    let _ ← b.set? f
    return .range a.char.toNat b.char.toNat
  | ascii negated s => f.negate? negated (f.fold s)
  | named negated query => f.namedSet? negated query
  | letter negated kind => f.letterSet? negated kind
  | bracketed negated s => do f.negate? negated (f.fold (← s.members? f))
  | items members => ClassSet.union? f members
  | op o left right => do return o.apply (f.fold (← left.members? f)) (f.fold (← right.members? f))

/-- The set of items next to each other. -/
def ClassSet.union? (f : Flags) : List ClassSet → Option CharSet
  | [] => some .none
  | s :: rest => do return (← s.members? f).union (← ClassSet.union? f rest)

end

mutual

/-- **The expression that a pattern stands for** under flags, and the flags behind it; none if it
asks for a class that does not exist or for bytes that are no characters. -/
def Pattern.meaning? (f : Flags) : Pattern → Option (Regex × Flags)
  | .empty => some (.empty, f)
  | .flags change => some (.empty, f.after change)
  | .literal l => (f.literal? l).map (·, f)
  | .dot => f.dot?.map fun s => (ofSet s, f)
  | .mark m => some (.assertion (f.assertion m), f)
  | .named negated query => (f.namedSet? negated query).map fun s => (ofSet s, f)
  | .letter negated kind => (f.letterSet? negated kind).map fun s => (ofSet s, f)
  | .bracketed negated s => do return (ofSet (← f.negate? negated (f.fold (← s.members? f))), f)
  | .repeated p least most => do
    let (r, f) ← p.meaning? f
    return (r.times least most, f)
  | .capture p => do return (.capture (← p.meaning? f).1, f)
  | .group change p => do return ((← p.meaning? (f.after change)).1, f)
  | .sequence ps => do
    let (rs, f) ← Pattern.meanings? f ps
    return (concat rs, f)
  | .alternation ps => do
    let (rs, f) ← Pattern.meanings? f ps
    return (anyOf rs, f)

/-- The expressions of patterns that are read one after the other. -/
def Pattern.meanings? (f : Flags) : List Pattern → Option (List Regex × Flags)
  | [] => some ([], f)
  | p :: rest => do
    let (r, f) ← p.meaning? f
    let (rs, f) ← Pattern.meanings? f rest
    return (r :: rs, f)

end

end XmlAudit.Regex
