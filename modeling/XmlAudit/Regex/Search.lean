import XmlAudit.Regex.Footprint
import XmlAudit.Regex.Parser

/-!
# Searching

* `Regex.parse?`: the expression of a pattern, none if the pattern is not valid or too large.
* `Regex.advance`: the places that a match can reach from given places.
* `Regex.occursIn`: whether some part of a text matches.

A place is marked by a Boolean per position, from before the first character to behind the last.
-/

namespace XmlAudit.Regex

/-- **Reading a pattern** under the flags given by letters; other letters are ignored. -/
def parse? (flags pattern : String) : Option Regex := do
  let has (c : Char) : Bool := flags.toList.contains c
  let p ← Pattern.read? (has 'x') pattern
  let (r, _) ← p.meaning? ⟨has 'i', has 'm', has 's', false, true⟩
  guard r.fits
  return r

/-- Marked positions of a text, one more than it has characters. -/
abbrev Marks := Array Bool

/-- Whether a character is part of a word. -/
def isWordChar (ascii : Bool) (c : Char) : Bool :=
  if ascii then c.isAlphanum || c = '_' else Text.isWordChar c

/-- Whether the character before and the one after a place satisfy an assertion. -/
def Assertion.holds (a : Assertion) (before after : Option Char) : Bool :=
  match a with
  | .textStart => before.isNone
  | .textEnd => after.isNone
  | .lineStart false => before.isNone || before = some '\n'
  | .lineStart true =>
    before.isNone || before = some '\n' || (before = some '\r' && after ≠ some '\n')
  | .lineEnd false => after.isNone || after = some '\n'
  | .lineEnd true =>
    after.isNone || after = some '\r' || (after = some '\n' && before ≠ some '\r')
  | .word edge ascii =>
    let behind := before.any (isWordChar ascii)
    let ahead := after.any (isWordChar ascii)
    match edge with
    | .boundary => behind != ahead
    | .noBoundary => behind == ahead
    | .start => !behind && ahead
    | .finish => behind && !ahead
    | .startHalf => !behind
    | .finishHalf => !ahead

/-- The places behind a character that satisfies a condition. -/
def stepOver (p : Char → Bool) (text : Array Char) (marks : Marks) : Marks :=
  #[false] ++ text.mapIdx fun i c => marks.getD i false && p c

/-- The marked places that satisfy an assertion. -/
def keepAsserted (a : Assertion) (text : Array Char) (marks : Marks) : Marks :=
  marks.mapIdx fun i m => m && a.holds (if i = 0 then none else text[i - 1]?) text[i]?

/-- The places marked in one of two. -/
def mergeMarks (a b : Marks) : Marks := a.mapIdx fun i m => m || b.getD i false

/-- A number of steps; they end early where nothing changes any more. -/
def exactly (step : Marks → Marks) : Nat → Marks → Marks
  | 0, marks => marks
  | n + 1, marks =>
    let next := step marks
    if next = marks then marks else exactly step n next

/-- Up to a number of steps. -/
def upTo (step : Marks → Marks) : Nat → Marks → Marks
  | 0, marks => marks
  | n + 1, marks =>
    let next := mergeMarks marks (step marks)
    if next = marks then marks else upTo step n next

/-- The places that matches from the marked places can end at. -/
def advance (text : Array Char) : Regex → Marks → Marks
  | .empty, marks => marks
  | .text cs, marks => cs.foldl (fun marks c => stepOver (· = c) text marks) marks
  | .set s, marks => stepOver s.contains text marks
  | .assertion a, marks => keepAsserted a text marks
  | .capture r, marks => advance text r marks
  | .seq a b, marks => advance text b (advance text a marks)
  | .alt a b, marks => mergeMarks (advance text a marks) (advance text b marks)
  | .repeated r least most, marks =>
    upTo (advance text r) ((most.map (· - least)).getD (text.size + 1))
      (exactly (advance text r) least marks)

/-- Whether some part of a text matches. -/
def occursIn (r : Regex) (s : String) : Bool :=
  let text := s.toList.toArray
  (advance text r (Array.replicate (text.size + 1) true)).any id

end XmlAudit.Regex
