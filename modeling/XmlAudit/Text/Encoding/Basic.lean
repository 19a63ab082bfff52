import XmlAudit.Text.Encoding.CodePages
import XmlAudit.Text.Encoding.EastAsian
import XmlAudit.Text.Utf8

/-!
# Character encodings

* `Encoding.ofLabel?`: the encoding that a label names, letter case aside.
* `Encoding.decode?`: the text that bytes spell, none if they are not valid in the encoding.
* `byteOrderMark?`: the encoding that a byte order mark announces.
-/

namespace XmlAudit.Text

/-- The encodings that a label can name. -/
inductive Encoding where
  | utf8
  | utf16le
  | utf16be
  | singleByte (page : CodePage)
  | gbk
  | gb18030
  | big5
  | eucJp
  | iso2022Jp
  | shiftJis
  | korean
  /-- Bytes from `0x80` on stand for private characters. -/
  | userDefined
  /-- An encoding of which no byte is ever read. -/
  | replacement

namespace Encoding

/-- The standard name of an encoding. -/
def name : Encoding → String
  | utf8 => "UTF-8"
  | utf16le => "UTF-16LE"
  | utf16be => "UTF-16BE"
  | singleByte page => page.name
  | gbk => "GBK"
  | gb18030 => "gb18030"
  | big5 => "Big5"
  | eucJp => "EUC-JP"
  | iso2022Jp => "ISO-2022-JP"
  | shiftJis => "Shift_JIS"
  | korean => "EUC-KR"
  | userDefined => "x-user-defined"
  | replacement => "replacement"

/-- The labels of every encoding, in lower case. -/
def labels : List (Encoding × List String) := [
    (.utf8,
      ["unicode-1-1-utf-8", "unicode11utf8", "unicode20utf8", "utf-8", "utf8",
      "x-unicode20utf8"]),
    (.singleByte ibm866,
      ["866", "cp866", "csibm866", "ibm866"]),
    (.singleByte iso88592,
      ["csisolatin2", "iso-8859-2", "iso-ir-101", "iso8859-2", "iso88592", "iso_8859-2",
      "iso_8859-2:1987", "l2", "latin2"]),
    (.singleByte iso88593,
      ["csisolatin3", "iso-8859-3", "iso-ir-109", "iso8859-3", "iso88593", "iso_8859-3",
      "iso_8859-3:1988", "l3", "latin3"]),
    (.singleByte iso88594,
      ["csisolatin4", "iso-8859-4", "iso-ir-110", "iso8859-4", "iso88594", "iso_8859-4",
      "iso_8859-4:1988", "l4", "latin4"]),
    (.singleByte iso88595,
      ["csisolatincyrillic", "cyrillic", "iso-8859-5", "iso-ir-144", "iso8859-5", "iso88595",
      "iso_8859-5", "iso_8859-5:1988"]),
    (.singleByte iso88596,
      ["arabic", "asmo-708", "csiso88596e", "csiso88596i", "csisolatinarabic", "ecma-114",
      "iso-8859-6", "iso-8859-6-e", "iso-8859-6-i", "iso-ir-127", "iso8859-6", "iso88596",
      "iso_8859-6", "iso_8859-6:1987"]),
    (.singleByte iso88597,
      ["csisolatingreek", "ecma-118", "elot_928", "greek", "greek8", "iso-8859-7", "iso-ir-126",
      "iso8859-7", "iso88597", "iso_8859-7", "iso_8859-7:1987", "sun_eu_greek"]),
    (.singleByte iso88598,
      ["csiso88598e", "csisolatinhebrew", "hebrew", "iso-8859-8", "iso-8859-8-e", "iso-ir-138",
      "iso8859-8", "iso88598", "iso_8859-8", "iso_8859-8:1988", "visual"]),
    (.singleByte iso88598I,
      ["csiso88598i", "iso-8859-8-i", "logical"]),
    (.singleByte iso885910,
      ["csisolatin6", "iso-8859-10", "iso-ir-157", "iso8859-10", "iso885910", "l6", "latin6"]),
    (.singleByte iso885913,
      ["iso-8859-13", "iso8859-13", "iso885913"]),
    (.singleByte iso885914,
      ["iso-8859-14", "iso8859-14", "iso885914"]),
    (.singleByte iso885915,
      ["csisolatin9", "iso-8859-15", "iso8859-15", "iso885915", "iso_8859-15", "l9"]),
    (.singleByte iso885916,
      ["iso-8859-16"]),
    (.singleByte koi8R,
      ["cskoi8r", "koi", "koi8", "koi8-r", "koi8_r"]),
    (.singleByte koi8U,
      ["koi8-ru", "koi8-u"]),
    (.singleByte macintosh,
      ["csmacintosh", "mac", "macintosh", "x-mac-roman"]),
    (.singleByte windows874,
      ["dos-874", "iso-8859-11", "iso8859-11", "iso885911", "tis-620", "windows-874"]),
    (.singleByte windows1250,
      ["cp1250", "windows-1250", "x-cp1250"]),
    (.singleByte windows1251,
      ["cp1251", "windows-1251", "x-cp1251"]),
    (.singleByte windows1252,
      ["ansi_x3.4-1968", "ascii", "cp1252", "cp819", "csisolatin1", "ibm819", "iso-8859-1",
      "iso-ir-100", "iso8859-1", "iso88591", "iso_8859-1", "iso_8859-1:1987", "l1", "latin1",
      "us-ascii", "windows-1252", "x-cp1252"]),
    (.singleByte windows1253,
      ["cp1253", "windows-1253", "x-cp1253"]),
    (.singleByte windows1254,
      ["cp1254", "csisolatin5", "iso-8859-9", "iso-ir-148", "iso8859-9", "iso88599",
      "iso_8859-9", "iso_8859-9:1989", "l5", "latin5", "windows-1254", "x-cp1254"]),
    (.singleByte windows1255,
      ["cp1255", "windows-1255", "x-cp1255"]),
    (.singleByte windows1256,
      ["cp1256", "windows-1256", "x-cp1256"]),
    (.singleByte windows1257,
      ["cp1257", "windows-1257", "x-cp1257"]),
    (.singleByte windows1258,
      ["cp1258", "windows-1258", "x-cp1258"]),
    (.singleByte xMacCyrillic,
      ["x-mac-cyrillic", "x-mac-ukrainian"]),
    (.gbk,
      ["chinese", "csgb2312", "csiso58gb231280", "gb2312", "gb_2312", "gb_2312-80", "gbk",
      "iso-ir-58", "x-gbk"]),
    (.gb18030,
      ["gb18030"]),
    (.big5,
      ["big5", "big5-hkscs", "cn-big5", "csbig5", "x-x-big5"]),
    (.eucJp,
      ["cseucpkdfmtjapanese", "euc-jp", "x-euc-jp"]),
    (.iso2022Jp,
      ["csiso2022jp", "iso-2022-jp"]),
    (.shiftJis,
      ["csshiftjis", "ms932", "ms_kanji", "shift-jis", "shift_jis", "sjis", "windows-31j",
      "x-sjis"]),
    (.korean,
      ["cseuckr", "csksc56011987", "euc-kr", "iso-ir-149", "korean", "ks_c_5601-1987",
      "ks_c_5601-1989", "ksc5601", "ksc_5601", "windows-949"]),
    (.utf16be,
      ["unicodefffe", "utf-16be"]),
    (.utf16le,
      ["csunicode", "iso-10646-ucs-2", "ucs-2", "unicode", "unicodefeff", "utf-16", "utf-16le"]),
    (.userDefined,
      ["x-user-defined"]),
    (.replacement,
      ["csiso2022kr", "hz-gb-2312", "iso-2022-cn", "iso-2022-cn-ext", "iso-2022-kr",
      "replacement"])]

/-- The encoding of a label, whatever the case of its letters. -/
def ofLabel? (label : String) : Option Encoding :=
  (labels.find? (·.2.contains (asciiLower label))).map (·.1)
where
  asciiLower (s : String) : String := s.map Char.toLower

/-- The character of a byte in a code page. -/
def pageChar? (page : CodePage) (b : UInt8) : Option Char :=
  if b < 0x80 then some (Char.ofNat b.toNat)
  else (page.high.toList[b.toNat - 0x80]?).filter (· ≠ '\ufffd')

/-- The 16-bit units of a byte sequence; none for a byte left over. -/
def units? (bigEndian : Bool) : List UInt8 → Option (List Nat)
  | [] => some []
  | [_] => none
  | a :: b :: rest =>
    (units? bigEndian rest).map
      ((if bigEndian then a.toNat * 256 + b.toNat else b.toNat * 256 + a.toNat) :: ·)

/-- The characters of 16-bit units, in which surrogates must pair up; `high` is a first half that
waits for its second. -/
def ofUnits? : Option Nat → List Nat → Option (List Char)
  | none, [] => some []
  | some _, [] => none
  | none, u :: us =>
    if 0xD800 ≤ u ∧ u ≤ 0xDBFF then ofUnits? (some u) us
    else if 0xDC00 ≤ u ∧ u ≤ 0xDFFF then none
    else (ofUnits? none us).map (Char.ofNat u :: ·)
  | some h, u :: us =>
    if 0xDC00 ≤ u ∧ u ≤ 0xDFFF then
      (ofUnits? none us).map
        (Char.ofNat (0x10000 + (h - 0xD800) * 0x400 + (u - 0xDC00)) :: ·)
    else none

/-- The characters that the bytes spell, if every byte is part of a valid character. -/
def decode? (e : Encoding) (bytes : List UInt8) : Option (List Char) :=
  match e with
  | utf8 => Utf8.decode? bytes
  | utf16le => (units? false bytes).bind (ofUnits? none)
  | utf16be => (units? true bytes).bind (ofUnits? none)
  | singleByte page => bytes.mapM (pageChar? page)
  | gbk | gb18030 => decodeGb18030? bytes
  | big5 => decodeBig5? bytes
  | eucJp => decodeEucJp? bytes
  | iso2022Jp => decodeIso2022Jp? bytes
  | shiftJis => decodeShiftJis? bytes
  | korean => decodeKorean? bytes
  | userDefined =>
    some (bytes.map fun b => Char.ofNat (if b < 0x80 then b.toNat else 0xF700 + b.toNat))
  | replacement => if bytes.isEmpty then some [] else none

end Encoding

/-- The encoding that a byte order mark at the start announces, and the bytes after the mark. -/
def byteOrderMark? : List UInt8 → Option (Encoding × List UInt8)
  | 0xEF :: 0xBB :: 0xBF :: rest => some (.utf8, rest)
  | 0xFF :: 0xFE :: rest => some (.utf16le, rest)
  | 0xFE :: 0xFF :: rest => some (.utf16be, rest)
  | _ => none

end XmlAudit.Text
