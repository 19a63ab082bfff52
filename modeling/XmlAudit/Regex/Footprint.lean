import XmlAudit.Regex.Expression
import XmlAudit.Text.Utf8

/-!
# The size of an expression

* `byteRuns`: the encodings of the characters of a set, as runs of byte ranges.
* `Regex.footprint`: the bytes that the automaton of an expression takes, forward or backward.
* `Regex.fits`: whether both automata are small enough.

A state takes 32 bytes, a transition of a state that branches on bytes 8 bytes, and each way on from
a state that branches freely 4 bytes.
-/

namespace XmlAudit.Regex

open Text (CharSet)

/-- A run of byte ranges: the encodings with one byte of each range. -/
abbrev ByteRun := List (Nat × Nat)

/-- The encodings of the numbers from `a` to `b`, with a number of bytes behind the first one, which
is added to `lead`. -/
def byteRunsFrom : Nat → Nat → Nat → Nat → List ByteRun
  | 0, lead, a, b => [[(lead + a, lead + b)]]
  | n + 1, lead, a, b =>
    let size := Nat.pow 64 (n + 1)
    let (p, q) := (a / size, b / size)
    let within (lead a b : Nat) : List ByteRun :=
      (byteRunsFrom n 0x80 a b).map ((lead, lead) :: ·)
    if p = q then within (lead + p) (a % size) (b % size)
    else
      let cutFirst := a % size ≠ 0
      let cutLast := b % size ≠ size - 1
      let p' := if cutFirst then p + 1 else p
      let q' := if cutLast then q else q + 1
      (if cutFirst then within (lead + p) (a % size) (size - 1) else []) ++
      (if p' < q' then [(lead + p', lead + q' - 1) :: .replicate (n + 1) (0x80, 0xBF)] else []) ++
      (if cutLast then within (lead + q) 0 (b % size) else [])

/-- The spans of code points with encodings of one length, with the number of bytes behind the first
one and what is added to that. -/
def encodedSpans : List (Nat × Nat × Nat × Nat) := [
  (0, 0x7F, 0, 0), (0x80, 0x7FF, 1, 0xC0), (0x800, 0xD7FF, 2, 0xE0), (0xE000, 0xFFFF, 2, 0xE0),
  (0x10000, 0x10FFFF, 3, 0xF0)]

/-- The encodings of the characters of a set, in order. -/
def byteRuns (s : CharSet) : List ByteRun :=
  s.ranges.flatMap fun (a, b) => encodedSpans.flatMap fun (first, last, more, lead) =>
    if max a first ≤ min b last then byteRunsFrom more lead (max a first) (min b last) else []

/-- The runs in groups with the same first range. -/
def branches (runs : List ByteRun) : List (List ByteRun) :=
  runs.splitBy fun a b => a.head? == b.head?

/-- The states that read runs from the first byte on, each with the runs that go on from it; `depth`
bounds the length of runs. -/
def runStates : Nat → List ByteRun → List (List ByteRun)
  | 0, _ => []
  | depth + 1, runs =>
    let runs := runs.filter (!·.isEmpty)
    if runs.isEmpty then []
    else runs :: (branches runs).flatMap fun group => runStates depth (group.map (·.drop 1))

/-- The size of what reads a character of a set. Forward, states from which the same runs go on are
shared; backward, there is a state for each byte range behind the ranges before it. -/
def setFootprint (backward : Bool) (s : CharSet) : Nat :=
  if s.isAscii then 64 + 8 * s.ranges.length
  else
    let runs := byteRuns s
    let states := runStates 4 runs
    if backward then
      64 + 4 * runs.length + 32 * Text.total (states.map fun runs => (branches runs).length)
    else 32 + Text.total (states.eraseDups.map fun runs => 32 + 8 * (branches runs).length)

/-- The size of what reads one of several words, sharing their beginnings; `length` bounds the
length of words. -/
def wordsFootprint : Nat → List (List UInt8) → Nat
  | 0, _ => 0
  | length + 1, words =>
    let longer := words.filter (!·.isEmpty)
    let heads := (longer.filterMap (·.head?)).eraseDups
    if heads.isEmpty then 0
    else
      68 + (if heads.length = 1 then 0 else 8 * heads.length) +
      (if longer.length < words.length then 4 else 0) +
      (heads.map fun b => wordsFootprint length
        ((longer.filter (·.head? = some b)).map (·.drop 1))).sum

/-- The words of a choice between texts. -/
def words? : Regex → Option (List (List UInt8))
  | alt a b => do return (← a.words?) ++ (← b.words?)
  | text cs => some [Text.Utf8.encode (String.ofList cs)]
  | _ => none

/-- Whether the empty text matches. -/
def matchesEmpty : Regex → Bool
  | empty | assertion _ => true
  | text _ | set _ => false
  | capture r => r.matchesEmpty
  | seq a b => a.matchesEmpty && b.matchesEmpty
  | alt a b => a.matchesEmpty || b.matchesEmpty
  | repeated r least _ => least = 0 || r.matchesEmpty

/-- **The size of the automaton** of an expression. `rest` tells whether the expression is what is
left of a choice, whose first state has been counted. -/
def footprint (backward : Bool) (rest : Bool) : Regex → Nat
  | empty | assertion _ => 32
  | text cs => 32 * Text.byteLength cs
  | set s => setFootprint backward s
  | capture r => (if backward then 0 else 64) + footprint backward false r
  | seq a b => footprint backward false a + footprint backward false b
  | alt a b =>
    match if rest then none else words? (alt a b) with
    | some words =>
      let words := if backward then words.map List.reverse else words
      32 + wordsFootprint ((words.map List.length).foldl max 0) words
    | none =>
      (if rest then 0 else 64) + 4 + footprint backward false a +
        (if (choices b).length = 1 then 4 else 0) + footprint backward true b
  | repeated r least most =>
    let one := footprint backward false r
    match least, most with
    | 0, some 1 => 72 + one
    | 0, none => (if r.matchesEmpty then 112 else 40) + one
    | n, none => 40 + n * one
    | n, some m =>
      let least := if n = 0 then 32 else n * one
      if n = m then least else least + 32 + (m - n) * (40 + one)

/-- The greatest size of an automaton. -/
def sizeLimit : Nat := 10 * Nat.pow 2 20

/-- **Whether an expression is small enough**: its automata with what starts a match at any place,
what keeps the whole match and what ends it. -/
def fits (r : Regex) : Bool :=
  footprint false false r + 208 ≤ sizeLimit && footprint true false r + 144 ≤ sizeLimit

end XmlAudit.Regex
