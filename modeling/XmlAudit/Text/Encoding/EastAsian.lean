import XmlAudit.Text.Encoding.Big5Table
import XmlAudit.Text.Encoding.Gb18030Table
import XmlAudit.Text.Encoding.JisTable
import XmlAudit.Text.Encoding.KoreanTable

/-!
# Encodings of East Asia

* `decodeGb18030?`: the characters of the encoding of the mainland of China, in one, two or four bytes.
* `decodeBig5?`: the characters of the encoding of Taiwan and Hong Kong, in one or two bytes.
* `decodeKorean?`: the characters of the Korean encoding, in one or two bytes.
* `decodeEucJp?`, `decodeShiftJis?`, `decodeIso2022Jp?`: the characters of the Japanese encodings. They
  write the same characters in pairs of high bytes, in pairs that start with a high byte, and in seven
  bits with escapes between the sets of characters.
-/

namespace XmlAudit.Text

/-! ## Chinese of the mainland -/

/-- The number of a two-byte character. -/
def gb18030Number? (a b : UInt8) : Option Nat :=
  if isBetween 0x40 0x7E b then some ((a.toNat - 0x81) * 190 + (b.toNat - 0x40))
  else if isBetween 0x80 0xFE b then some ((a.toNat - 0x81) * 190 + (b.toNat - 0x41))
  else none

/-- The code point of a four-byte character of the first plane, given its number and where the
others start that follow on one another. -/
def gb18030Point (n : Nat) : Nat :=
  match (gb18030Starts.takeWhile (·.1 ≤ n)).getLast? with
  | some (start, point) => point + (n - start)
  | none => n

/-- The character of a number in four bytes. -/
def gb18030Char? (n : Nat) : Option Char :=
  if n < 39420 then some (Char.ofNat (gb18030Point n))
  else if 189000 ≤ n ∧ n < 189000 + 0x100000 then some (Char.ofNat (n - 189000 + 0x10000))
  else none

/-- A character in four bytes. -/
def gb18030Four? (a b c d : UInt8) : Option (List Char × Nat) :=
  if isBetween 0x81 0xFE c && isBetween 0x30 0x39 d then
    let n := (((a.toNat - 0x81) * 10 + (b.toNat - 0x30)) * 126 + (c.toNat - 0x81)) * 10 +
      (d.toNat - 0x30)
    (gb18030Char? n).map ([·], 4)
  else none

/-- The character at the start of bytes. The euro sign is also a byte of its own. -/
def readGb18030 : CharReader
  | a :: rest =>
    if a < 0x80 then asciiChar? a
    else if a = 0x80 then some (['\u20ac'], 1)
    else if a = 0xFF then none
    else
      match rest with
      | b :: c :: d :: _ =>
        if isBetween 0x30 0x39 b then gb18030Four? a b c d
        else ((gb18030Number? a b).bind gb18030.get?).map ([·], 2)
      | b :: _ => ((gb18030Number? a b).bind gb18030.get?).map ([·], 2)
      | [] => none
  | [] => none

/-- The characters of the encoding of the mainland. -/
def decodeGb18030? (bytes : List UInt8) : Option (List Char) := readChars readGb18030 0 bytes

/-! ## Chinese of Taiwan and Hong Kong -/

/-- The number of a two-byte character. -/
def big5Number? (a b : UInt8) : Option Nat :=
  if isBetween 0x40 0x7E b then some ((a.toNat - 0x81) * 157 + (b.toNat - 0x40))
  else if isBetween 0xA1 0xFE b then some ((a.toNat - 0x81) * 157 + (b.toNat - 0x62))
  else none

/-- The characters of a number: a letter with a mark in four cases, else one. -/
def big5Chars? (n : Nat) : Option (List Char) :=
  match n with
  | 1133 => some ['\u00ca', '\u0304']
  | 1135 => some ['\u00ca', '\u030c']
  | 1164 => some ['\u00ea', '\u0304']
  | 1166 => some ['\u00ea', '\u030c']
  | n => (big5.get? n).map ([·])

/-- The characters at the start of bytes. -/
def readBig5 : CharReader
  | a :: rest =>
    if a < 0x80 then asciiChar? a
    else if isBetween 0x81 0xFE a then
      match rest with
      | b :: _ => ((big5Number? a b).bind big5Chars?).map (·, 2)
      | [] => none
    else none
  | [] => none

/-- The characters of the encoding of Taiwan and Hong Kong. -/
def decodeBig5? (bytes : List UInt8) : Option (List Char) := readChars readBig5 0 bytes

/-! ## Korean -/

/-- The character at the start of bytes. -/
def readKorean : CharReader
  | a :: rest =>
    if a < 0x80 then asciiChar? a
    else if isBetween 0x81 0xFE a then
      match rest with
      | b :: _ =>
        if isBetween 0x41 0xFE b then
          (korean.get? ((a.toNat - 0x81) * 190 + (b.toNat - 0x41))).map ([·], 2)
        else none
      | [] => none
    else none
  | [] => none

/-- The characters of the Korean encoding. -/
def decodeKorean? (bytes : List UInt8) : Option (List Char) := readChars readKorean 0 bytes

/-! ## Japanese letters -/

/-- The narrow letter of a number. -/
def narrowKatakana (n : Nat) : Char := Char.ofNat (0xFF61 + n)

/-! ## Japanese in pairs of high bytes -/

/-- The character of two high bytes in a table of rows of 94 characters. -/
def rowChar? (t : CharTable) (a b : UInt8) : Option Char :=
  if isBetween 0xA1 0xFE a && isBetween 0xA1 0xFE b then
    t.get? ((a.toNat - 0xA1) * 94 + (b.toNat - 0xA1))
  else none

/-- The character at the start of bytes: narrow letters and the supplement follow a byte of their
own. -/
def readEucJp : CharReader
  | 0x8E :: b :: _ =>
    if isBetween 0xA1 0xDF b then some ([narrowKatakana (b.toNat - 0xA1)], 2) else none
  | 0x8F :: a :: b :: _ => (rowChar? jis0212 a b).map ([·], 3)
  | a :: rest =>
    if a < 0x80 then asciiChar? a
    else
      match rest with
      | b :: _ => (rowChar? jis0208 a b).map ([·], 2)
      | [] => none
  | [] => none

/-- The characters of pairs of high bytes. -/
def decodeEucJp? (bytes : List UInt8) : Option (List Char) := readChars readEucJp 0 bytes

/-! ## Japanese in pairs that start with a high byte -/

/-- The number of a pair. -/
def shiftJisNumber? (a b : UInt8) : Option Nat :=
  let row := (a.toNat - (if a < 0xA0 then 0x81 else 0xC1)) * 188
  if isBetween 0x40 0x7E b then some (row + (b.toNat - 0x40))
  else if isBetween 0x80 0xFC b then some (row + (b.toNat - 0x41))
  else none

/-- The character of a number; some numbers are kept for private use. -/
def shiftJisChar? (n : Nat) : Option Char :=
  if 8836 ≤ n ∧ n ≤ 10715 then some (Char.ofNat (0xE000 + (n - 8836))) else jis0208.get? n

/-- The character at the start of bytes. -/
def readShiftJis : CharReader
  | a :: rest =>
    if a ≤ 0x80 then some ([Char.ofNat a.toNat], 1)
    else if isBetween 0xA1 0xDF a then some ([narrowKatakana (a.toNat - 0xA1)], 1)
    else if a = 0xA0 || a > 0xFC then none
    else
      match rest with
      | b :: _ => ((shiftJisNumber? a b).bind shiftJisChar?).map ([·], 2)
      | [] => none
  | [] => none

/-- The characters of pairs that start with a high byte. -/
def decodeShiftJis? (bytes : List UInt8) : Option (List Char) := readChars readShiftJis 0 bytes

/-! ## Japanese in seven bits with escapes -/

/-- The sets of characters between which escapes change. -/
inductive JisSet where
  | ascii
  | roman
  | katakana
  | pairs
deriving DecidableEq, Repr

/-- The set that the two bytes after an escape announce. -/
def JisSet.ofEscape? : UInt8 → UInt8 → Option JisSet
  | 0x28, 0x42 => some ascii
  | 0x28, 0x4A => some roman
  | 0x28, 0x49 => some katakana
  | 0x24, 0x40 | 0x24, 0x42 => some pairs
  | _, _ => none

/-- The character of a byte in a set of single bytes. -/
def JisSet.char? (s : JisSet) (b : UInt8) : Option Char :=
  match s with
  | pairs => none
  | katakana =>
    if isBetween 0x21 0x5F b then some (narrowKatakana (b.toNat - 0x21)) else none
  | _ =>
    if [0x0E, 0x0F, 0x1B].contains b || b ≥ 0x80 then none
    else if s = roman && b = 0x5C then some '\u00a5'
    else if s = roman && b = 0x7E then some '\u203e'
    else some (Char.ofNat b.toNat)

/-- The characters of bytes in a set of characters; `fresh` tells that an escape stands right before
them, which another one may not follow. -/
def decodeIso2022From (s : JisSet) (fresh : Bool) : List UInt8 → Option (List Char)
  | [] => some []
  | 0x1B :: a :: b :: rest =>
    match JisSet.ofEscape? a b with
    | some s => if fresh then none else decodeIso2022From s true rest
    | none => none
  | [b] => (s.char? b).map ([·])
  | a :: b :: rest =>
    if s = .pairs then
      if isBetween 0x21 0x7E a && isBetween 0x21 0x7E b then
        match jis0208.get? ((a.toNat - 0x21) * 94 + (b.toNat - 0x21)) with
        | some c => (decodeIso2022From s false rest).map (c :: ·)
        | none => none
      else none
    else
      match s.char? a with
      | some c => (decodeIso2022From s false (b :: rest)).map (c :: ·)
      | none => none

/-- The characters of seven bits with escapes. -/
def decodeIso2022Jp? (bytes : List UInt8) : Option (List Char) :=
  decodeIso2022From .ascii false bytes

end XmlAudit.Text
