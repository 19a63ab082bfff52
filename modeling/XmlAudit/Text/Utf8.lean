/-!
# UTF-8

* `Utf8.scan`: the characters of a byte sequence, with a gap for every maximal piece that starts no
  character.
* `Utf8.decode?`, `Utf8.decodeLossy`: all characters or none; a replacement character per gap.
* `byteLength`: the length of a text in UTF-8 bytes.
-/

namespace XmlAudit.Text

namespace Utf8

/-- A character that is not yet complete: its bits so far, how many bytes it still lacks, and the
range of the next one. -/
structure Pending where
  bits : Nat
  owed : Nat
  low : UInt8
  high : UInt8

/-- What a byte between characters stands for. -/
inductive Lead where
  | complete (c : Char)
  | starts (p : Pending)
  | invalid

/-- The first byte of a character fixes its length and the range of the second byte. -/
def lead (b : UInt8) : Lead :=
  if b < 0x80 then .complete (Char.ofNat b.toNat)
  else if b < 0xC2 then .invalid
  else if b < 0xE0 then .starts ⟨b.toNat - 0xC0, 1, 0x80, 0xBF⟩
  else if b < 0xF0 then
    .starts ⟨b.toNat - 0xE0, 2, if b = 0xE0 then 0xA0 else 0x80, if b = 0xED then 0x9F else 0xBF⟩
  else if b < 0xF5 then
    .starts ⟨b.toNat - 0xF0, 3, if b = 0xF0 then 0x90 else 0x80, if b = 0xF4 then 0x8F else 0xBF⟩
  else .invalid

/-- The characters of a byte sequence, `none` standing for a maximal piece of no character. -/
def scan : Option Pending → List UInt8 → List (Option Char)
  | none, [] => []
  | some _, [] => [none]
  | none, b :: bs =>
    match lead b with
    | .complete c => some c :: scan none bs
    | .starts p => scan (some p) bs
    | .invalid => none :: scan none bs
  | some p, b :: bs =>
    if p.low ≤ b ∧ b ≤ p.high then
      let bits := p.bits * 64 + (b.toNat - 0x80)
      if p.owed ≤ 1 then some (Char.ofNat bits) :: scan none bs
      else scan (some ⟨bits, p.owed - 1, 0x80, 0xBF⟩) bs
    else
      none :: match lead b with
        | .complete c => some c :: scan none bs
        | .starts q => scan (some q) bs
        | .invalid => none :: scan none bs

/-- The characters of valid UTF-8. -/
def decode? (bytes : List UInt8) : Option (List Char) := (scan none bytes).mapM id

/-- The characters of a byte sequence, with a replacement character for every invalid piece. -/
def decodeLossy (bytes : List UInt8) : List Char := (scan none bytes).map (·.getD '\ufffd')

/-- The bytes of a text. -/
def encode (s : String) : List UInt8 := s.toUTF8.toList

/-- The first byte of a character, taken for a character itself. -/
def firstByte (c : Char) : Char :=
  match encode (String.singleton c) with
  | b :: _ => Char.ofNat b.toNat
  | [] => c

end Utf8

/-- The sum of the numbers of a list. -/
def total (ns : List Nat) : Nat := ns.foldr (· + ·) 0

/-- The length of a list of characters in UTF-8 bytes. -/
def byteLength (cs : List Char) : Nat := total (cs.map Char.utf8Size)

end XmlAudit.Text
