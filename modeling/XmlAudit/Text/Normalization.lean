import XmlAudit.Text.Combining
import XmlAudit.Text.Decomposition

/-!
# Normal form of texts

A letter with marks may be written in several ways. In the normal form the marks of a letter are in
the order of their classes, and a letter and marks for which one character stands are that one.

* `inOrder`: the marks behind each letter in the order of their classes.
* `recompose`: letters and marks put together.
* `normalize`: the normal form of a text.
-/

namespace XmlAudit.Text

/-- Characters with the marks behind each letter in the order of their classes; `marks` are those
that were read and not yet put into order. -/
def inOrderFrom (marks : List Nat) : List Nat → List Nat
  | [] => sorted
  | n :: ns =>
    if combiningClass n = 0 then sorted ++ n :: inOrderFrom [] ns else inOrderFrom (marks ++ [n]) ns
where
  /-- The marks in the order of their classes, marks of one class as they stand. -/
  sorted : List Nat := marks.mergeSort fun a b => combiningClass a ≤ combiningClass b

/-- Characters with the marks behind each letter in the order of their classes. -/
def inOrder (ns : List Nat) : List Nat := inOrderFrom [] ns

/-- Characters put together, given a letter and the marks behind it that stay, the last one first. A
mark comes to the letter only past marks of lower classes, and a letter only if none is between. -/
def recomposeFrom (letter : Nat) (marks : List Nat) : List Nat → List Nat
  | [] => letter :: marks.reverse
  | n :: ns =>
    let isNear := marks.all (combiningClass · < combiningClass n)
    match if isNear then compose? letter n else none with
    | some c => recomposeFrom c marks ns
    | none =>
      if combiningClass n = 0 then letter :: marks.reverse ++ recomposeFrom n [] ns
      else recomposeFrom letter (n :: marks) ns

/-- Characters put together; marks at the start belong to no letter. -/
def recompose (ns : List Nat) : List Nat :=
  let isMark (n : Nat) : Bool := combiningClass n ≠ 0
  match ns.dropWhile isMark with
  | [] => ns
  | letter :: rest => ns.takeWhile isMark ++ recomposeFrom letter [] rest

/-- **The normal form of a text.** -/
def normalize (cs : List Char) : List Char :=
  (recompose (inOrder (cs.flatMap fun c => decompose c.toNat))).map Char.ofNat

end XmlAudit.Text
