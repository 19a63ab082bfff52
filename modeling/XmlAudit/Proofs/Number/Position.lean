import Mathlib
import XmlAudit.Number.Decimal

/-!
# Positions in digits and as doubles

Predicates compare positions, which are natural numbers, with the doubles that their digits spell.

* `Double.normal`: a positive number by the fields of its bits.
* `Double.unpack_floatOfNat`, `Double.unpack_nearest`: a natural number below `2 ^ 53` has the same
  fields whether it is converted or read from its digits.
* `Decimal.EndsDigits`: a text with which a run of digits in front of it does not go on.
* `Decimal.read_beq_ofNat`: positions are told apart by their digits.
-/

namespace XmlAudit.Number

namespace Double

open Float.Model
open Float.Model.UnpackedFloat

theorem sign_ofBitVec_toBitVec (s : Sign) : Sign.ofBitVec s.toBitVec = s := by
  cases s <;> rfl

theorem unpackSign_packComponents (s : Sign) (e : BitVec 11) (m : BitVec 52) :
    @unpackSign .binary64 (packComponents .binary64 s e m) = s.toBitVec := by
  apply BitVec.eq_of_getLsbD_eq
  intro i hi
  obtain rfl : i = 0 := by omega
  simp only [unpackSign, packComponents]
  simp
  rw [BitVec.getLsbD_append, BitVec.getLsbD_append]
  simp

theorem toNat_implicit_append (m : BitVec 52) : (1#1 ++ m).toNat = 2 ^ 52 + m.toNat := by
  rw [BitVec.toNat_append, ← Nat.shiftLeft_add_eq_or_of_lt m.isLt]
  simp [Nat.shiftLeft_eq]

/-- A number whose exponent field is neither of the two special ones is unpacked as it was packed. -/
theorem unpack_packComponents {s : Sign} {e m : Nat} (h0 : 0 < e) (he : e < 2047) (hm : m < 2 ^ 52) :
    unpack .binary64 (packComponents .binary64 s (BitVec.ofNat 11 e) (BitVec.ofNat 52 m)) =
      .finite s (2 ^ 52 + m) (e - 1075) (by omega) := by
  have hez : BitVec.ofNat 11 e ≠ 0#11 := by
    intro h
    have := congrArg BitVec.toNat h
    simp at this
    omega
  have hei : BitVec.ofNat 11 e ≠ -1#11 := by
    intro h
    have := congrArg BitVec.toNat h
    simp at this
    omega
  have hmant : (1#1 ++ BitVec.ofNat 52 m).toNat = 2 ^ 52 + m := by
    rw [toNat_implicit_append, BitVec.toNat_ofNat, Nat.mod_eq_of_lt hm]
  have hexp : (BitVec.ofNat 11 e).toNat = e := by
    rw [BitVec.toNat_ofNat, Nat.mod_eq_of_lt (by omega)]
  unfold UnpackedFloat.unpack
  simp only [unpackMantissa_packComponents, unpackExponent_packComponents,
    unpackSign_packComponents, sign_ofBitVec_toBitVec, if_neg hez, if_neg hei, hexp]
  congr 1

theorem log2_significand {f : Nat} (hf : f < 2 ^ 52) : (2 ^ 52 + f).log2 = 52 := by
  have hpos : 2 ^ 52 + f ≠ 0 := by omega
  have h1 := (Nat.le_log2 hpos).2 (Nat.le_add_right (2 ^ 52) f)
  have h2 := (Nat.log2_lt (k := 53) hpos).2 (by omega)
  omega

/-- A normal number is packed into its fields. -/
theorem pack_finite {k f : Nat} (hk : k < 2047) (hf : f < 2 ^ 52) (hpos : 0 < 2 ^ 52 + f) :
    UnpackedFloat.pack .binary64 (.finite .positive (2 ^ 52 + f) ((k : Int) - 1075) hpos) =
      packComponents .binary64 .positive (BitVec.ofNat 11 k) (BitVec.ofNat 52 f) := by
  have hlog : (2 ^ 52 + f).log2 + 1 = Format.mantissaBits .binary64 := by
    rw [log2_significand hf]
    rfl
  have hbias : ((k : Int) - 1075 + Format.exponentBias .binary64 + ((52 : Nat) : Int)).toNat = k := by
    simp only [Format.exponentBias]
    omega
  have hmant : BitVec.ofNat 52 (2 ^ 52 + f) = BitVec.ofNat 52 f := by
    apply BitVec.eq_of_toNat_eq
    simp
  simp only [UnpackedFloat.pack, hbias, hlog, hmant, if_true]
  rw [if_neg (by omega)]

/-- The number `(2 ^ 52 + f) * 2 ^ (k - 1075)`, with `k` and `f` the fields of its bits. -/
def normal (k f : Nat) : UnpackedFloat := .finite .positive (2 ^ 52 + f) ((k : Int) - 1075) (by omega)

/-- A normal number is unpacked as it was packed. -/
theorem unpack_pack_normal {k f : Nat} (h0 : 0 < k) (hk : k < 2047) (hf : f < 2 ^ 52) :
    (Float.Model.pack (normal k f)).unpack = normal k f := by
  rw [Float.Model.unpack, Float.Model.pack, normal]
  simp only [pack_finite hk hf]
  exact unpack_packComponents h0 hk hf

/-- The bits of a normal number. -/
theorem unpack_ofBits {k f : Nat} (h0 : 0 < k) (hk : k < 2047) (hf : f < 2 ^ 52) :
    (Float.ofBits (UInt64.ofNat (k * 2 ^ 52 + f))).toModel.unpack = normal k f := by
  have hbits : (UInt64.ofNat (k * 2 ^ 52 + f)).toBitVec =
      packComponents .binary64 .positive (BitVec.ofNat 11 k) (BitVec.ofNat 52 f) := by
    apply BitVec.eq_of_toNat_eq
    have hfields : ((0#1 ++ BitVec.ofNat 11 k) ++ BitVec.ofNat 52 f).toNat = k * 2 ^ 52 + f := by
      rw [BitVec.toNat_append, BitVec.toNat_append,
        ← Nat.shiftLeft_add_eq_or_of_lt (BitVec.ofNat 52 f).isLt]
      simp only [BitVec.toNat_ofNat, Nat.shiftLeft_eq, Nat.mod_eq_of_lt hf,
        Nat.mod_eq_of_lt (show k < 2 ^ 11 by omega)]
      simp
    refine Eq.trans ?_ hfields.symm
    simp only [UInt64.toNat_toBitVec, UInt64.toNat_ofNat']
    exact Nat.mod_eq_of_lt (by omega)
  show (Float.Model.pack (UnpackedFloat.unpack .binary64 (UInt64.ofNat (k * 2 ^ 52 + f)).toBitVec)).unpack = _
  rw [hbits, unpack_packComponents h0 hk hf]
  exact unpack_pack_normal h0 hk hf

/-! ## Rounding what needs none -/

theorem shiftRight_mantissa (m n : Nat) :
    (ExtendedMantissa.mk (m * 2 ^ n) false false) >>> n = ⟨m, false, false⟩ := by
  show n.repeat ExtendedMantissa.shiftRightOne _ = _
  induction n generalizing m with
  | zero => simp [Nat.repeat]
  | succ n ih =>
    rw [Nat.repeat, pow_succ, mul_comm (2 ^ n) 2, ← mul_assoc, ih (m * 2)]
    simp [ExtendedMantissa.shiftRightOne]

/-- A number that fits is rounded to itself. -/
theorem roundWithAccuracy_exact {k f n : Nat} (h0 : 0 < k) (hf : f < 2 ^ 52) (hn : n ≤ 52) :
    roundWithAccuracy .binary64 .positive ((2 ^ 52 + f) * 2 ^ n) ((k : Int) - 1075 - n) .exact =
      normal k f := by
  have hpos : 2 ^ 52 + f ≠ 0 := by omega
  have hlog := log2_significand hf
  have hlogn : ((2 ^ 52 + f) * 2 ^ n).log2 = 52 + n := by
    have hne : (2 ^ 52 + f) * 2 ^ n ≠ 0 := Nat.mul_ne_zero hpos (by positivity)
    have h1 : 2 ^ (52 + n) ≤ (2 ^ 52 + f) * 2 ^ n := by
      rw [pow_add]
      exact Nat.mul_le_mul_right _ (by omega)
    have h2 : (2 ^ 52 + f) * 2 ^ n < 2 ^ (53 + n) := by
      rw [pow_add]
      exact Nat.mul_lt_mul_of_pos_right (by omega) (by positivity)
    have h3 := (Nat.le_log2 hne).2 h1
    have h4 := (Nat.log2_lt hne).2 h2
    omega
  have htarget : Format.targetExponent .binary64 (52 + 1 + ((k : Int) - 1075)) = (k : Int) - 1075 := by
    simp only [Format.targetExponent, Format.mantissaBits, Format.minExponent]
    omega
  -- rounding shifts twice: the mantissa to its place, and then by nothing
  have hfirst : shiftToTargetExponent .binary64 ((2 ^ 52 + f) * 2 ^ n) ((k : Int) - 1075 - n) .exact =
      (⟨2 ^ 52 + f, false, false⟩, (k : Int) - 1075) := by
    have htotal : totalExponent ((2 ^ 52 + f) * 2 ^ n) ((k : Int) - 1075 - n) =
        52 + 1 + ((k : Int) - 1075) := by
      simp only [totalExponent, hlogn]
      omega
    have hshift : ((k : Int) - 1075 - ((k : Int) - 1075 - n)).toNat = n := by omega
    simp only [shiftToTargetExponent, shiftToExponent, htotal, htarget, hshift,
      ExtendedMantissa.ofMantissaAndAccuracy, shiftRight_mantissa]
    congr 1
    omega
  have hsecond : shiftToTargetExponent .binary64 (2 ^ 52 + f) ((k : Int) - 1075) .exact =
      (⟨2 ^ 52 + f, false, false⟩, (k : Int) - 1075) := by
    have htotal : totalExponent (2 ^ 52 + f) ((k : Int) - 1075) = 52 + 1 + ((k : Int) - 1075) := by
      simp only [totalExponent, hlog]
      omega
    have hshift := shiftRight_mantissa (2 ^ 52 + f) 0
    simp only [pow_zero, mul_one] at hshift
    simp only [shiftToTargetExponent, shiftToExponent, htotal, htarget, sub_self, Int.toNat_zero,
      ExtendedMantissa.ofMantissaAndAccuracy, hshift]
    simp
  unfold roundWithAccuracy
  rw [hfirst]
  simp only [ExtendedMantissa.roundedMantissa, ExtendedMantissa.accuracy,
    Accuracy.roundToNearestEven, hsecond]
  rw [dif_neg hpos, normal]

/-! ## Natural numbers -/

/-- The number of the exponent field of a natural number. -/
def exponentField (n : Nat) : Nat := n.log2 + 1023

/-- The number of the mantissa field of a natural number below `2 ^ 53`. -/
def mantissaField (n : Nat) : Nat := n * 2 ^ (52 - n.log2) - 2 ^ 52

section

variable {n : Nat} (h0 : 0 < n) (h : n < 2 ^ 53)

include h0 h

theorem log2_le : n.log2 ≤ 52 := by
  have := (Nat.log2_lt h0.ne').2 h
  omega

theorem exponentField_lt : exponentField n < 2047 := by
  have := log2_le h0 h
  rw [exponentField]
  omega

theorem significand_bounds :
    2 ^ 52 ≤ n * 2 ^ (52 - n.log2) ∧ n * 2 ^ (52 - n.log2) < 2 ^ 53 := by
  have hle := log2_le h0 h
  have h1 : 2 ^ n.log2 * 2 ^ (52 - n.log2) = 2 ^ 52 := by
    rw [← pow_add]
    congr 1
    omega
  have h2 : 2 ^ (n.log2 + 1) * 2 ^ (52 - n.log2) = 2 ^ 53 := by
    rw [← pow_add]
    congr 1
    omega
  rw [← h1, ← h2]
  exact ⟨Nat.mul_le_mul_right _ (Nat.log2_self_le h0.ne'),
    Nat.mul_lt_mul_of_pos_right Nat.lt_log2_self (by positivity)⟩

theorem mantissaField_lt : mantissaField n < 2 ^ 52 := by
  obtain ⟨h1, h2⟩ := significand_bounds h0 h
  unfold mantissaField
  -- the product is not linear
  generalize n * 2 ^ (52 - n.log2) = m at h1 h2
  omega

theorem significand_eq : n * 2 ^ (52 - n.log2) = 2 ^ 52 + mantissaField n := by
  obtain ⟨h1, h2⟩ := significand_bounds h0 h
  unfold mantissaField
  generalize n * 2 ^ (52 - n.log2) = m at h1 h2
  omega

theorem unpacked_ofNat :
    UnpackedFloat.ofNat .binary64 n = normal (exponentField n) (mantissaField n) := by
  have hle := log2_le h0 h
  have hcompare : compare (n : Int) 0 = .gt := by
    rw [Int.compare_eq_gt]
    omega
  have htarget : Format.targetExponent .binary64 (totalExponent n 0) = (n.log2 : Int) - 52 := by
    simp only [Format.targetExponent, totalExponent, Format.mantissaBits, Format.minExponent]
    omega
  have hshift : (0 - ((n.log2 : Int) - 52)).toNat = 52 - n.log2 := by omega
  have hround := @roundWithAccuracy_exact (exponentField n) (mantissaField n) 0
    (by rw [exponentField]; omega) (mantissaField_lt h0 h) (Nat.zero_le 52)
  rw [pow_zero, mul_one, ← significand_eq h0 h, ← Nat.shiftLeft_eq] at hround
  simp only [UnpackedFloat.ofNat, UnpackedFloat.ofInt, UnpackedFloat.normalize, hcompare,
    UnpackedFloat.round, htarget, decreaseExponent, Int.toNat_natCast, hshift]
  have hexponent : (0 : Int) - ((52 - n.log2 : Nat) : Int) =
      (exponentField n : Int) - 1075 - ((0 : Nat) : Int) := by
    unfold exponentField
    omega
  rw [hexponent]
  exact hround

/-- **A position is the double with its fields.** -/
theorem unpack_floatOfNat :
    (Float.ofNat n).toModel.unpack = normal (exponentField n) (mantissaField n) := by
  have hk : 0 < exponentField n := by rw [exponentField]; omega
  have hk' := exponentField_lt h0 h
  have hf := mantissaField_lt h0 h
  have hn : n.toUInt64.toFloat.toModel.unpack = normal (exponentField n) (mantissaField n) := by
    show (Float.Model.pack (UnpackedFloat.ofUInt64 .binary64 n.toUInt64)).unpack = _
    have htoNat : n.toUInt64.toNat = n := by
      simp only [UInt64.toNat_ofNat', Nat.toUInt64]
      omega
    rw [UnpackedFloat.ofUInt64, htoNat, unpacked_ofNat h0 h]
    exact unpack_pack_normal hk hk' hf
  have h1 : (Float.ofBits 0x3FF0000000000000).toModel.unpack = normal 1023 0 :=
    @unpack_ofBits 1023 0 (by decide) (by decide) (by decide)
  -- a natural number is converted as a decimal without exponent: times one
  have hmul : Float.ofNat n = n.toUInt64.toFloat * Float.ofBits 0x3FF0000000000000 := by
    show Float.ofScientific n false 0 = _
    rw [Float.ofScientific, dif_pos ⟨h, by decide⟩]
    rfl
  rw [hmul]
  show (Float.Model.pack (UnpackedFloat.mul .binary64 n.toUInt64.toFloat.toModel.unpack
    (Float.ofBits 0x3FF0000000000000).toModel.unpack)).unpack = _
  rw [hn, h1]
  have hround := @roundWithAccuracy_exact (exponentField n) (mantissaField n) 52 hk hf (Nat.le_refl 52)
  have hproduct : UnpackedFloat.mul .binary64 (normal (exponentField n) (mantissaField n))
      (normal 1023 0) = normal (exponentField n) (mantissaField n) := by
    refine Eq.trans ?_ hround
    have hexponent : (exponentField n : Int) - 1075 + (((1023 : Nat) : Int) - 1075) =
        (exponentField n : Int) - 1075 - ((52 : Nat) : Int) := by omega
    simp only [UnpackedFloat.mul, normal, hexponent, Nat.add_zero]
    rfl
  rw [hproduct]
  exact unpack_pack_normal hk hk' hf

end

/-- The digits of a natural number spell it. -/
theorem unpack_nearest {n : Nat} (h0 : 0 < n) (h : n < 2 ^ 53) :
    (Double.nearest false n 1).toModel.unpack = normal (exponentField n) (mantissaField n) := by
  have hle := log2_le h0 h
  obtain ⟨hlo, hhi⟩ := significand_bounds h0 h
  have hk : 0 < exponentField n := by rw [exponentField]; omega
  -- moved up to 53 bits, a number below 2 ^ 53 is still whole, so nothing is rounded
  have hscaled : Double.scaled n 1 ((n.log2 : Int) - 52) = (n * 2 ^ (52 - n.log2), 1) := by
    unfold Double.scaled
    split
    · have : n.log2 = 52 := by omega
      simp [this]
    · have hneg : (-((n.log2 : Int) - 52)).toNat = 52 - n.log2 := by omega
      rw [hneg, Nat.pow_eq]
  have hulp : Double.ulpPower n 1 = (n.log2 : Int) - 52 := by
    have hlog1 : Nat.log2 1 = 0 := by decide
    unfold Double.ulpPower
    simp only [hlog1, Int.ofNat_zero, Int.sub_zero]
    simp only [hscaled, Nat.div_one, Nat.pow_eq]
    rw [if_neg (by omega)]
    omega
  have hbits : Double.nearestBits n 1 = exponentField n * 2 ^ 52 + mantissaField n := by
    unfold Double.nearestBits
    rw [if_neg h0.ne']
    have hround : ∀ m, Double.roundHalfEven m 1 = m := by
      intro m
      unfold Double.roundHalfEven
      simp only [Nat.mod_one, Nat.div_one]
      rw [if_pos (.inl (by decide))]
    have hpower : ((n.log2 : Int) - 52 + 1074).toNat = n.log2 + 1022 := by omega
    simp only [hulp, hscaled, hround, hpower, significand_eq h0 h, Nat.pow_eq]
    have hf := mantissaField_lt h0 h
    unfold exponentField Double.infinityBits
    omega
  have hword := unpack_ofBits hk (exponentField_lt h0 h) (mantissaField_lt h0 h)
  rw [← hbits] at hword
  exact hword

/-- Positive numbers are equal if their fields are. -/
theorem beq_normal {k f k' f' : Nat} :
    (normal k f).beq (normal k' f') = true ↔ k = k' ∧ f = f' := by
  have hthen : ∀ a b : Ordering, a.then b = .eq ↔ a = .eq ∧ b = .eq := by
    intro a b
    cases a <;> cases b <;> decide
  simp only [normal, UnpackedFloat.beq, UnpackedFloat.compare, beq_iff_eq, Option.some.injEq, hthen,
    Std.compare_eq_iff_eq]
  omega

theorem eq_of_fields {n m : Nat} (hn0 : 0 < n) (hn : n < 2 ^ 53) (hm0 : 0 < m) (hm : m < 2 ^ 53)
    (he : exponentField n = exponentField m) (hf : mantissaField n = mantissaField m) : n = m := by
  have hlog : n.log2 = m.log2 := by
    unfold exponentField at he
    omega
  have hs := significand_eq hn0 hn
  rw [hf, ← significand_eq hm0 hm, hlog] at hs
  exact Nat.eq_of_mul_eq_mul_right (by positivity) hs

end Double

namespace Decimal

section

variable {ds rest : List Char} {n : Nat}

/-- **A text with which digits in front of it do not go on.** -/
def EndsDigits (rest : List Char) : Prop := ∀ c ∈ rest.head?, c.isDigit = false

/-- What holds of each digit of a base holds of all digits of a number. -/
theorem of_mem_toDigits {base n : Nat} {p : Char → Bool} {c : Char} (hbase : 1 < base)
    (hdigit : ∀ d < base, p (Nat.digitChar d)) (h : c ∈ Nat.toDigits base n) : p c := by
  induction n using Nat.strong_induction_on with
  | _ n ih =>
    rw [Nat.toDigits_eq_if hbase] at h
    split_ifs at h with hsmall
    · rw [List.mem_singleton.1 h]
      exact hdigit n hsmall
    · rcases List.mem_append.1 h with h | h
      · exact ih _ (Nat.div_lt_self (by omega) hbase) h
      · rw [List.mem_singleton.1 h]
        exact hdigit _ (Nat.mod_lt _ (by omega))

theorem isDigit_of_mem_toDigits {c : Char} (h : c ∈ Nat.toDigits 10 n) : c.isDigit :=
  Nat.isDigit_of_mem_toDigits (by decide) (Nat.le_refl 10) h

theorem takeWhile_isDigit (hds : ∀ c ∈ ds, c.isDigit) (hrest : EndsDigits rest) :
    (ds ++ rest).takeWhile Char.isDigit = ds := by
  rw [List.takeWhile_append_of_pos hds]
  cases rest with
  | nil => exact List.append_nil ds
  | cons c rest => rw [List.takeWhile_cons_of_neg (by simp [hrest c rfl]), List.append_nil]

theorem dropWhile_isDigit (hds : ∀ c ∈ ds, c.isDigit) (hrest : EndsDigits rest) :
    (ds ++ rest).dropWhile Char.isDigit = rest := by
  rw [List.dropWhile_append_of_pos hds]
  cases rest with
  | nil => rfl
  | cons c rest => rw [List.dropWhile_cons_of_neg (by simp [hrest c rfl])]

/-- A number of one digit or more is written without a zero in front. -/
theorem head?_toDigits (h : 0 < n) : (Nat.toDigits 10 n).head? ≠ some '0' := by
  induction n using Nat.strongRecOn with
  | _ n ih =>
    rw [Nat.toDigits_eq_if (by decide)]
    split
    · next hn =>
      intro hzero
      have hdigit : n.digitChar = '0' := by simpa using hzero
      have hvalue := Nat.toNat_digitChar_of_lt_ten hn
      rw [hdigit] at hvalue
      have : ('0' : Char).toNat = 48 := rfl
      omega
    · next hn =>
      rw [List.head?_append_of_ne_nil _ Nat.toDigits_ne_nil]
      exact ih (n / 10) (by omega) (by omega)

end

theorem ofDigits_toDigits (n : Nat) : ofDigits (Nat.toDigits 10 n) = n := by
  have hfold : ∀ cs : List Char, ofDigits cs = Nat.ofDigitChars 10 cs 0 := by
    intro cs
    rw [Nat.ofDigitChars_eq_foldl, ofDigits]
    simp only [digit, Nat.mul_comm]
  rw [hfold, Nat.ofDigitChars_ten_toDigits]

/-- The digits of a natural number are read without rounding. -/
theorem read_toDigits (n : Nat) : read false (Nat.toDigits 10 n) = Double.nearest false n 1 := by
  have hall : ∀ c ∈ Nat.toDigits 10 n, decide (c ≠ '.') = true := by
    intro c hc
    have := isDigit_of_mem_toDigits hc
    rw [decide_eq_true_iff]
    rintro rfl
    cases this
  have htake : (Nat.toDigits 10 n).takeWhile (· ≠ '.') = Nat.toDigits 10 n :=
    List.takeWhile_eq_self_iff.2 hall
  have hdrop : (Nat.toDigits 10 n).dropWhile (· ≠ '.') = [] := List.dropWhile_eq_nil_iff.2 hall
  unfold read
  simp only [htake, hdrop, List.drop_nil, List.append_nil, ofDigits_toDigits, List.length_nil]

/-- **A position is told apart from all others by its digits**, up to where doubles are integers
without gaps. -/
theorem read_beq_ofNat {n k : Nat} (hn0 : 0 < n) (hn : n < 2 ^ 53) (hk0 : 0 < k) (hk : k < 2 ^ 53) :
    (read false (Nat.toDigits 10 n) == Float.ofNat k) = true ↔ n = k := by
  have hleft := Double.unpack_nearest hn0 hn
  have hright := Double.unpack_floatOfNat hk0 hk
  rw [read_toDigits]
  show ((Double.nearest false n 1).toModel.unpack.beq (Float.ofNat k).toModel.unpack) = true ↔ _
  rw [hleft, hright]
  rw [Double.beq_normal]
  constructor
  · rintro ⟨he, hm⟩
    exact Double.eq_of_fields hn0 hn hk0 hk he hm
  · rintro rfl
    exact ⟨rfl, rfl⟩

end Decimal

end XmlAudit.Number
