/-!
# Tables of characters

* `CharTable`: characters by number, with gaps.
* `CharTable.ofParts`: the table of runs and texts.
* `CharTable.get?`: the character of a number.
-/

namespace XmlAudit.Text

/-- Characters by number; the null character marks a gap. -/
structure CharTable where
  chars : Array Char

namespace CharTable

/-- A table with characters from a number on. -/
def fill (t : CharTable) (first : Nat) (cs : List Char) : CharTable :=
  (cs.foldl (fun (t, n) c => (⟨t.chars.setIfInBounds n c⟩, n + 1)) (t, first)).1

/-- The characters of a run, given how many there are and the first code point. -/
def runChars (count first : Nat) : List Char :=
  (List.range count).map fun i => Char.ofNat (first + i)

/-- The characters of a text but for the breaks of its lines. -/
def textChars (text : String) : List Char := text.toList.filter fun c => !(c = ' ' || c = '\n')

/-- The table of some size with runs of characters in the order of their code points and with texts,
both behind the number of the first character. -/
def ofParts (size : Nat) (runs : List (Nat × Nat × Nat)) (texts : List (Nat × String)) :
    CharTable :=
  let empty : CharTable := ⟨Array.replicate size '\x00'⟩
  let filled := texts.foldl (fun t (n, text) => t.fill n (textChars text)) empty
  runs.foldl (fun t (n, count, first) => t.fill n (runChars count first)) filled

/-- The character of a number. -/
def get? (t : CharTable) (n : Nat) : Option Char := t.chars[n]?.filter (· ≠ '\x00')

end CharTable

/-- What the bytes at the start of a text spell, and how many of them do. -/
abbrev CharReader := List UInt8 → Option (List Char × Nat)

/-- The characters that bytes spell from left to right; `skip` bytes are taken already. -/
def readChars (read : CharReader) : Nat → List UInt8 → Option (List Char)
  | _, [] => some []
  | skip + 1, _ :: bytes => readChars read skip bytes
  | 0, b :: bytes =>
    match read (b :: bytes) with
    | some (cs, n) => (readChars read (n - 1) bytes).map (cs ++ ·)
    | none => none

/-- A character of ASCII, which is one byte. -/
def asciiChar? (b : UInt8) : Option (List Char × Nat) :=
  if b < 0x80 then some ([Char.ofNat b.toNat], 1) else none

/-- Whether a byte lies between two others. -/
def isBetween (low high b : UInt8) : Bool := low ≤ b && b ≤ high

end XmlAudit.Text
