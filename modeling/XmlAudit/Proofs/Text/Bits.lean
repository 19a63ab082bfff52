import Mathlib
import XmlAudit.Text.CharSet

/-!
# Sets of code points as bits

What two tables have in common is found by one operation on two numbers, each of which has a bit for
every code point of a table.

* `bits`, `rangeBits`, `stepBits`: the numbers of lists, of ranges, and of every so many code points.
* `testBit_bits` and the like: their members.
* `has_eq_testBit`, `lookup_eq_none_iff`: what tables say in terms of their bits.
* `not_testBit_of_and`: what is in one of two sets without common members is not in the other one.
-/

namespace XmlAudit.Text

/-- The set of some code points. -/
def bits (ns : List Nat) : Nat := ns.foldr (fun n set => 2 ^ n ||| set) 0

/-- The set of the code points from `a` to `b`. -/
def rangeBits (a b : Nat) : Nat := (2 ^ (b + 1 - a) - 1) <<< a

/-- The set of the code points of some ranges. -/
def rangesBits (rs : List (Nat × Nat)) : Nat := rs.foldr (fun r set => rangeBits r.1 r.2 ||| set) 0

/-- The set of the first `count` multiples of a step. -/
def stepBits (step : Nat) : Nat → Nat
  | 0 => 0
  | count + 1 => (stepBits step count <<< step) ||| 1

variable {n : Nat}

theorem testBit_bits {ns : List Nat} : (bits ns).testBit n = true ↔ n ∈ ns := by
  induction ns with
  | nil => simp [bits]
  | cons m ns ih =>
    rw [bits, List.foldr_cons, ← bits, Nat.testBit_or, Bool.or_eq_true, ih, List.mem_cons,
      Nat.testBit_two_pow, decide_eq_true_eq, eq_comm]

theorem testBit_rangeBits {a b : Nat} : (rangeBits a b).testBit n = true ↔ a ≤ n ∧ n ≤ b := by
  rw [rangeBits, Nat.testBit_shiftLeft, Bool.and_eq_true, Nat.testBit_two_pow_sub_one,
    decide_eq_true_eq, decide_eq_true_eq]
  omega

theorem testBit_rangesBits {rs : List (Nat × Nat)} :
    (rangesBits rs).testBit n = true ↔ ∃ r ∈ rs, r.1 ≤ n ∧ n ≤ r.2 := by
  induction rs with
  | nil => simp [rangesBits]
  | cons r rs ih =>
    rw [rangesBits, List.foldr_cons, ← rangesBits, Nat.testBit_or, Bool.or_eq_true, ih,
      testBit_rangeBits, List.exists_mem_cons_iff]

theorem testBit_stepBits {step count : Nat} :
    (stepBits step count).testBit n = true ↔ ∃ k < count, n = k * step := by
  induction count generalizing n with
  | zero => simp [stepBits]
  | succ count ih =>
    rw [stepBits, Nat.testBit_or, Bool.or_eq_true, Nat.testBit_shiftLeft, Bool.and_eq_true, ih,
      decide_eq_true_eq]
    constructor
    · rintro (⟨hstep, k, hk, heq⟩ | hone)
      · exact ⟨k + 1, by omega, by rw [Nat.succ_mul]; omega⟩
      · have hzero : n = 0 := by
          rw [Nat.testBit_one_eq_true_iff_self_eq_zero] at hone
          exact hone
        exact ⟨0, Nat.succ_pos count, by rw [hzero, Nat.zero_mul]⟩
    · rintro ⟨k, hk, rfl⟩
      cases k with
      | zero => exact .inr (by simp)
      | succ k =>
        have hless : (k + 1) * step - step = k * step := by rw [Nat.succ_mul, Nat.add_sub_cancel]
        exact .inl ⟨Nat.le_mul_of_pos_left _ (Nat.succ_pos k), k, by omega, hless⟩

theorem has_eq_testBit (s : CharSet) (n : Nat) : s.has n = (rangesBits s.ranges).testBit n := by
  rw [Bool.eq_iff_iff, testBit_rangesBits, CharSet.has, List.any_eq_true]
  simp

/-- A table has nothing for what is not among its keys. -/
theorem lookup_eq_none_iff {α : Type} {table : List (Nat × α)} :
    table.lookup n = none ↔ (bits (table.map (·.1))).testBit n = false := by
  rw [List.lookup_eq_none_iff, ← Bool.not_eq_true, testBit_bits, List.mem_map, not_exists]
  simp only [not_and, bne_iff_ne]
  exact ⟨fun h e he heq => h e he heq.symm, fun h e he heq => h e he heq.symm⟩

/-- What is in one of two sets without common members is not in the other one. -/
theorem not_testBit_of_and {a b : Nat} (h : a &&& b = 0) (ha : a.testBit n) : b.testBit n = false := by
  have hand := congrArg (Nat.testBit · n) h
  simpa [Nat.testBit_and, ha] using hand

theorem testBit_or_left {a b : Nat} (h : a.testBit n) : (a ||| b).testBit n := by
  rw [Nat.testBit_or, h, Bool.true_or]

theorem testBit_or_right {a b : Nat} (h : b.testBit n) : (a ||| b).testBit n := by
  rw [Nat.testBit_or, h, Bool.or_true]

theorem not_testBit_or {a b : Nat} (h : (a ||| b).testBit n = false) :
    a.testBit n = false ∧ b.testBit n = false := by
  rwa [Nat.testBit_or, Bool.or_eq_false_iff] at h

end XmlAudit.Text
