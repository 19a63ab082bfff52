/-!
# Tables in hexadecimal numbers

* `hexWords`: the words of a table, each as the numbers in it.
-/

namespace XmlAudit.Text

/-- What has been read of a table: the words, the last first, the numbers of the word that is being
read, the last first, and the number that is being read. -/
structure HexReader where
  words : List (List Nat)
  word : List Nat
  number : Option Nat

/-- The value of a digit; letters are capitals. -/
def hexDigitValue? (c : Char) : Option Nat :=
  if c.isDigit then some (c.toNat - 48)
  else if 'A' ≤ c ∧ c ≤ 'F' then some (c.toNat - 55)
  else none

namespace HexReader

/-- The word that is being read, without a number that goes on. -/
def closed (r : HexReader) : List Nat := r.number.toList ++ r.word

/-- One more character: a digit goes on a number, a blank or a line end ends a word, and any other
character ends a number. -/
def read (r : HexReader) (c : Char) : HexReader :=
  match hexDigitValue? c with
  | some d => { r with number := some (r.number.getD 0 * 16 + d) }
  | none =>
    if c = ' ' ∨ c = '\n' then
      ⟨if r.closed.isEmpty then r.words else r.closed.reverse :: r.words, [], none⟩
    else ⟨r.words, r.closed, none⟩

end HexReader

/-- **The words of a table**, parted by blanks and line ends, as the hexadecimal numbers in them,
parted by any other marks. -/
def hexWords (table : String) : List (List Nat) :=
  ((table.toList.foldl HexReader.read ⟨[], [], none⟩).read ' ').words.reverse

end XmlAudit.Text
