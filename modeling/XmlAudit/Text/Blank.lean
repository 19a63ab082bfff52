/-!
# Blank characters

* `isBlank`: the Unicode property `White_Space`.
* `isXmlBlank`: the four blanks of XML markup.
* `trim`, `fields`: blanks cut at both ends, and the parts between runs of blanks.
-/

namespace XmlAudit.Text

/-- Membership of a code point in a list of closed ranges. -/
def inRanges (table : List (Nat × Nat)) (c : Char) : Bool :=
  table.any fun r => r.1 ≤ c.toNat && c.toNat ≤ r.2

/-- The ranges of the property `White_Space`. -/
def blankRanges : List (Nat × Nat) := [
  (0x9, 0xD), (0x20, 0x20), (0x85, 0x85), (0xA0, 0xA0), (0x1680, 0x1680), (0x2000, 0x200A),
  (0x2028, 0x2029), (0x202F, 0x202F), (0x205F, 0x205F), (0x3000, 0x3000)]

/-- A character of the property `White_Space`. -/
def isBlank (c : Char) : Bool := inRanges blankRanges c

/-- Markup knows four blanks: space, carriage return, line feed and tab. -/
def isXmlBlank (c : Char) : Bool := c == ' ' || c == '\r' || c == '\n' || c == '\t'

/-- The characters after the leading blanks. -/
def trimStart (cs : List Char) : List Char := cs.dropWhile isBlank

/-- The characters before the trailing blanks. -/
def trimEnd (cs : List Char) : List Char := (cs.reverse.dropWhile isBlank).reverse

/-- The text without the blanks at its two ends. -/
def trim (s : String) : String := String.ofList (trimEnd (trimStart s.toList))

/-- A text of blanks only. -/
def allBlank (s : String) : Bool := s.toList.all isBlank

/-- The non-empty parts between characters that satisfy `p`; `word` holds the part being read. -/
def splitAround (p : Char → Bool) (word : List Char) : List Char → List (List Char)
  | [] => if word.isEmpty then [] else [word.reverse]
  | c :: cs =>
    if p c then
      if word.isEmpty then splitAround p [] cs else word.reverse :: splitAround p [] cs
    else splitAround p (c :: word) cs

/-- The blank-separated fields of a text. -/
def fields (s : String) : List String := (splitAround isBlank [] s.toList).map String.ofList

/-- The text with blanks cut at its ends and every inner run of blanks made one space. -/
def squeeze (s : String) : String := " ".intercalate (fields s)

end XmlAudit.Text
