import XmlAudit.Text.Replace
import XmlAudit.Text.Utf8

/-!
# Percent encoding

* `percentEncode`: the characters of a set written as the octets of their UTF-8 form; characters
  beyond ASCII always are.
* `percentDecode`: the octets that a text spells.
* `inPath`, `inQuery`, `inFragment`, `inUserinfo`: what each part of an address encodes.
-/

namespace XmlAudit.Url

/-- A hexadecimal digit, in capitals. -/
def hexDigit (n : Nat) : Char := (Nat.digitChar n).toUpper

/-- An octet as it is written after encoding. -/
def percentOctet (b : UInt8) : List Char := ['%', hexDigit (b.toNat / 16), hexDigit (b.toNat % 16)]

/-- A text in which the characters of a set are encoded. -/
def percentEncode (encoded : Char → Bool) (cs : List Char) : List Char :=
  cs.flatMap fun c =>
    if c.toNat ≥ 0x80 || encoded c then (Text.Utf8.encode (String.singleton c)).flatMap percentOctet
    else [c]

/-- The value of a hexadecimal digit. -/
def hexValue? (c : Char) : Option Nat :=
  if c.isDigit then some (c.toNat - 48)
  else if 'a' ≤ c ∧ c ≤ 'f' then some (c.toNat - 87)
  else if 'A' ≤ c ∧ c ≤ 'F' then some (c.toNat - 55)
  else none

/-- The octet that three characters spell. -/
def octet? : List Char → Option UInt8
  | '%' :: a :: b :: _ =>
    match hexValue? a, hexValue? b with
    | some x, some y => some (UInt8.ofNat (x * 16 + y))
    | _, _ => none
  | _ => none

/-- The octets of a text of which the first `skip` characters are already taken. -/
def percentDecodeFrom : Nat → List Char → List UInt8
  | _, [] => []
  | skip + 1, _ :: cs => percentDecodeFrom skip cs
  | 0, c :: cs =>
    match octet? (c :: cs) with
    | some b => b :: percentDecodeFrom 2 cs
    | none => Text.Utf8.encode (String.singleton c) ++ percentDecodeFrom 0 cs

/-- The octets that a text spells. -/
def percentDecode (cs : List Char) : List UInt8 := percentDecodeFrom 0 cs

/-- A control character of ASCII. -/
def isControl (c : Char) : Bool := c.toNat < 0x20 || c.toNat = 0x7F

/-- A character of a list of ASCII characters, or a control character. -/
def controlOr (others : String) (c : Char) : Bool := isControl c || others.toList.contains c

/-- What a fragment encodes. -/
def inFragment (c : Char) : Bool := controlOr " \"<>`" c

/-- What a path encodes. -/
def inPath (c : Char) : Bool := inFragment c || ['#', '?', '\x7b', '\x7d'].contains c

/-- What a user name or a password encodes. -/
def inUserinfo (c : Char) : Bool := inPath c || "/:;=@[\\]^|".toList.contains c

/-- What a query encodes, in an address of a scheme with hosts or of another one. -/
def inQuery (special : Bool) (c : Char) : Bool :=
  controlOr " \"#<>" c || (special && c = '\'')

end XmlAudit.Url
