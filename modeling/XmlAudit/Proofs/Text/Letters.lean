import XmlAudit.Proofs.Text.Bits
import XmlAudit.Text.Letters

/-!
# Letters and digits in ASCII

* `isLetter_of_lt`, `isNumeral_of_lt`, `isDecimal_of_lt`, `isWordChar_of_lt`: what the tables say of
  the characters of ASCII.
* `not_isAlphanumeric_of_isBlank`: no blank is a letter or a numeral.
-/

namespace XmlAudit.Text

variable {c : Char}

/-- What the tables of letters and digits have in common with ASCII and with blanks. -/
theorem tables_and_ascii :
    rangesBits letterRanges &&& rangeBits 0 127 = rangesBits [(0x41, 0x5A), (0x61, 0x7A)] ∧
      rangesBits numeralRanges &&& rangeBits 0 127 = rangesBits [(0x30, 0x39)] ∧
      rangesBits decimalRanges &&& rangeBits 0 127 = rangesBits [(0x30, 0x39)] ∧
      rangesBits wordRanges &&& rangeBits 0 127 =
        rangesBits [(0x30, 0x39), (0x41, 0x5A), (0x5F, 0x5F), (0x61, 0x7A)] ∧
      rangesBits blankRanges &&& (rangesBits letterRanges ||| rangesBits numeralRanges) = 0 := by
  decide +kernel

theorem inRanges_eq_testBit (table : List (Nat × Nat)) (c : Char) :
    inRanges table c = (rangesBits table).testBit c.toNat := by
  rw [Bool.eq_iff_iff, testBit_rangesBits, inRanges, List.any_eq_true]
  simp

/-- Two tables that have the same in common with ASCII agree on its characters. -/
theorem inRanges_of_lt {table ascii : List (Nat × Nat)}
    (h : rangesBits table &&& rangeBits 0 127 = rangesBits ascii) (hc : c.toNat < 128) :
    inRanges table c = inRanges ascii c := by
  have hin : (rangeBits 0 127).testBit c.toNat := testBit_rangeBits.2 ⟨Nat.zero_le _, by omega⟩
  rw [inRanges_eq_testBit, inRanges_eq_testBit, ← h, Nat.testBit_and, hin, Bool.and_true]

theorem inRanges_letters : inRanges [(0x41, 0x5A), (0x61, 0x7A)] c = c.isAlpha := by
  simp [inRanges, Char.isAlpha, Char.isUpper, Char.isLower, UInt32.le_iff_toNat_le]

theorem inRanges_digits : inRanges [(0x30, 0x39)] c = c.isDigit := by
  simp [inRanges, Char.isDigit, UInt32.le_iff_toNat_le]

theorem isLetter_of_lt (hc : c.toNat < 128) : isLetter c = c.isAlpha := by
  rw [isLetter, inRanges_of_lt tables_and_ascii.1 hc, inRanges_letters, Bool.or_self]

theorem isNumeral_of_lt (hc : c.toNat < 128) : isNumeral c = c.isDigit := by
  rw [isNumeral, inRanges_of_lt tables_and_ascii.2.1 hc, inRanges_digits, Bool.or_self]

theorem isDecimal_of_lt (hc : c.toNat < 128) : isDecimal c = c.isDigit := by
  rw [isDecimal, inRanges_of_lt tables_and_ascii.2.2.1 hc, inRanges_digits, Bool.or_self]

theorem isWordChar_of_lt (hc : c.toNat < 128) : isWordChar c = (c.isAlphanum || c == '_') := by
  have hword : inRanges [(0x30, 0x39), (0x41, 0x5A), (0x5F, 0x5F), (0x61, 0x7A)] c =
      (c.isAlphanum || c == '_') := by
    have hline : c = '_' ↔ c.toNat = 95 := ⟨fun h => h ▸ rfl, fun h => Char.toNat_inj.1 h⟩
    rw [Bool.eq_iff_iff]
    simp [inRanges, Char.isAlphanum, Char.isAlpha, Char.isUpper, Char.isLower, Char.isDigit,
      UInt32.le_iff_toNat_le, hline]
    omega
  rw [isWordChar, inRanges_of_lt tables_and_ascii.2.2.2.1 hc, hword, Bool.or_self]

theorem isLetter_eq_inRanges (c : Char) : isLetter c = inRanges letterRanges c := by
  rw [isLetter, Bool.or_eq_right_iff_imp]
  intro halpha
  have hc : c.toNat < 128 := by
    simp [Char.isAlpha, Char.isUpper, Char.isLower, UInt32.le_iff_toNat_le] at halpha
    omega
  rw [inRanges_of_lt tables_and_ascii.1 hc, inRanges_letters, halpha]

theorem isNumeral_eq_inRanges (c : Char) : isNumeral c = inRanges numeralRanges c := by
  rw [isNumeral, Bool.or_eq_right_iff_imp]
  intro hdigit
  have hc : c.toNat < 128 := by
    simp [Char.isDigit, UInt32.le_iff_toNat_le] at hdigit
    omega
  rw [inRanges_of_lt tables_and_ascii.2.1 hc, inRanges_digits, hdigit]

/-- No blank is a letter or a numeral. -/
theorem not_isAlphanumeric_of_isBlank (h : isBlank c) : isAlphanumeric c = false := by
  rw [isBlank, inRanges_eq_testBit] at h
  rw [isAlphanumeric, isLetter_eq_inRanges, isNumeral_eq_inRanges, inRanges_eq_testBit,
    inRanges_eq_testBit, ← Nat.testBit_or]
  exact not_testBit_of_and tables_and_ascii.2.2.2.2 h

end XmlAudit.Text
