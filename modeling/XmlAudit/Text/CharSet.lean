import XmlAudit.Text.HexTable

/-!
# Sets of characters

* `CharSet`: a set of characters as ranges of code points in ascending order with gaps between them.
* `CharSet.ofRanges`, `CharSet.ofText`: the sets of given ranges.
* `CharSet.contains`: membership.
* `CharSet.union`, `inter`, `diff`, `symmetricDiff`, `complement`: the operations on sets.
-/

namespace XmlAudit.Text

/-- A set of characters: ranges of code points in ascending order, none of which touch. -/
structure CharSet where
  ranges : List (Nat × Nat)
deriving DecidableEq, Repr

namespace CharSet

/-- The greatest code point. -/
def top : Nat := 0x10FFFF

/-- A range and those that start behind its start, joined where they overlap or touch. -/
def joinFrom (a b : Nat) : List (Nat × Nat) → List (Nat × Nat)
  | [] => [(a, b)]
  | (c, d) :: rest => if c ≤ b + 1 then joinFrom a (max b d) rest else (a, b) :: joinFrom c d rest

/-- The set of some ranges. -/
def ofRanges (rs : List (Nat × Nat)) : CharSet :=
  match rs.mergeSort (·.1 ≤ ·.1) with
  | [] => ⟨[]⟩
  | (a, b) :: rest => ⟨joinFrom a b rest⟩

/-- The set without members. -/
def none : CharSet := ⟨[]⟩

/-- The set of all characters. -/
def all : CharSet := ⟨[(0, top)]⟩

/-- The characters between two code points. -/
def range (a b : Nat) : CharSet := ⟨[(a, b)]⟩

/-- The set of one character. -/
def single (c : Char) : CharSet := range c.toNat c.toNat

/-- Whether a code point lies in one of the ranges. -/
def has (s : CharSet) (n : Nat) : Bool := s.ranges.any fun r => r.1 ≤ n && n ≤ r.2

/-- Membership in a set. -/
def contains (s : CharSet) (c : Char) : Bool := s.has c.toNat

/-- The characters of one of two sets. -/
def union (a b : CharSet) : CharSet := ofRanges (a.ranges ++ b.ranges)

/-- What ranges leave out from a code point on. -/
def gapsFrom (next : Nat) : List (Nat × Nat) → List (Nat × Nat)
  | [] => if next ≤ top then [(next, top)] else []
  | (a, b) :: rest =>
    if next < a then (next, a - 1) :: gapsFrom (b + 1) rest else gapsFrom (b + 1) rest

/-- The characters that are not in a set. -/
def complement (s : CharSet) : CharSet := ⟨gapsFrom 0 s.ranges⟩

/-- The characters of both sets. -/
def inter (a b : CharSet) : CharSet := (a.complement.union b.complement).complement

/-- The characters of the first set that are not in the second one. -/
def diff (a b : CharSet) : CharSet := a.inter b.complement

/-- The characters that are in one of two sets only. -/
def symmetricDiff (a b : CharSet) : CharSet := (a.union b).diff (a.inter b)

/-- Whether there are no members but ASCII characters. -/
def isAscii (s : CharSet) : Bool := s.ranges.all (·.2 < 128)

/-- The only member, if there is exactly one. -/
def only? (s : CharSet) : Option Char :=
  match s.ranges with
  | [(a, b)] => if a = b then some (Char.ofNat a) else Option.none
  | _ => Option.none

/-- **The set of a text** such as `41-5A AA`: hexadecimal code points and ranges of them, with
blanks or line ends between them. -/
def ofText (text : String) : CharSet :=
  ofRanges ((hexWords text).filterMap fun word =>
    match word with
    | [a] => some (a, a)
    | [a, b] => some (a, b)
    | _ => Option.none)

end CharSet

end XmlAudit.Text
