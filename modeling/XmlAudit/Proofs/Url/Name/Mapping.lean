import XmlAudit.Proofs.Text.Normalization
import XmlAudit.Url.Name.Mapping

/-!
# Characters of names that stand for themselves

* `isKeptChar`: a character that no table of names changes.
* `mapped?_of_isKeptChar`: it stands for itself.
* `isKeptChar_of_mapped?`: what a character stands for is made of such characters.
* `isClosed_isKeptChar`: their normal forms are as well.
-/

namespace XmlAudit.Url.Name

open Text (bits rangesBits stepBits testBit_bits testBit_rangesBits testBit_stepBits testBit_or_left
  testBit_or_right not_testBit_or not_testBit_of_and has_eq_testBit lookup_eq_none_iff)

variable {n m : Nat} {r : Run}

/-! ## The tables as sets -/

/-- As many code points from `start` on as a run has, as far from each other. -/
def Run.bits (r : Run) (start : Nat) : Nat :=
  stepBits r.step ((r.last - r.first) / r.step + 1) <<< start

/-- The characters of runs. -/
def runBits : Nat := runs.foldr (fun r set => r.bits r.first ||| set) 0

/-- What they stand for. -/
def runImageBits : Nat := runs.foldr (fun r set => r.bits r.image ||| set) 0

/-- The characters that stand for others or are in no name. -/
def changedBits : Nat :=
  rangesBits disallowed.ranges ||| (rangesBits ignored.ranges |||
    (runBits ||| bits (expansions.map (·.1))))

/-- What other characters stand for. -/
def imageBits : Nat := runImageBits ||| bits (expansions.flatMap (·.2))

/-- **A character that no table of names changes.** -/
def isKeptChar (n : Nat) : Bool := !changedBits.testBit n

/-- How the tables lie to each other, to those of normal forms and to ASCII: what their entries have
to be looked at for. -/
theorem tables_apart :
    imageBits &&& changedBits = 0 ∧ (Text.syllableBits ||| Text.syllablePartBits) &&& changedBits = 0 ∧
      (Text.composites.all fun e => isKeptChar e.1 == (isKeptChar e.2.1 && isKeptChar e.2.2)) ∧
      (Text.expansions.all fun e => !isKeptChar e.1 || e.2.all isKeptChar) ∧
      (runs.all fun r => r.first ≤ r.last) ∧ isKeptChar 0 ∧
      (List.range 128).all fun n => !isKeptChar n || (Char.ofNat n).toLower == Char.ofNat n := by
  decide +kernel

theorem testBit_run {start : Nat} (h : r.first ≤ n ∧ n ≤ r.last ∧ (n - r.first) % r.step = 0) :
    (r.bits start).testBit (start + (n - r.first)) := by
  obtain ⟨hfirst, hlast, hstep⟩ := h
  have hplace : (n - r.first) / r.step * r.step = n - r.first :=
    Nat.div_mul_cancel (Nat.dvd_of_mod_eq_zero hstep)
  have hcount : (n - r.first) / r.step < (r.last - r.first) / r.step + 1 :=
    Nat.lt_succ_of_le (Nat.div_le_div_right (by omega))
  rw [Run.bits, Nat.testBit_shiftLeft, Nat.add_sub_cancel_left, Bool.and_eq_true, testBit_stepBits]
  exact ⟨by simp, _, hcount, hplace.symm⟩

/-- The code points that a run covers are those of its set. -/
theorem covered_of_testBit (h : r ∈ runs) (hbit : (r.bits r.first).testBit n) :
    r.first ≤ n ∧ n ≤ r.last ∧ (n - r.first) % r.step = 0 := by
  have hr := of_decide_eq_true (List.all_eq_true.1 tables_apart.2.2.2.2.1 r h)
  rw [Run.bits, Nat.testBit_shiftLeft, Bool.and_eq_true, testBit_stepBits, decide_eq_true_eq] at hbit
  obtain ⟨hfirst, k, hk, heq⟩ := hbit
  have hlast : k * r.step ≤ r.last - r.first := by
    calc k * r.step ≤ (r.last - r.first) / r.step * r.step := Nat.mul_le_mul_right _ (by omega)
      _ ≤ r.last - r.first := Nat.div_mul_le_self _ _
  exact ⟨hfirst, by omega, by rw [heq, Nat.mul_mod_left]⟩

theorem testBit_foldr {f : Run → Nat} {rs : List Run} :
    (rs.foldr (fun r set => f r ||| set) 0).testBit n = true ↔ ∃ r ∈ rs, (f r).testBit n := by
  induction rs with
  | nil => simp
  | cons s rs ih =>
    rw [List.foldr_cons, Nat.testBit_or, Bool.or_eq_true, ih, List.exists_mem_cons_iff]

/-! ## Characters that stand for themselves -/

theorem isClosed_isKeptChar : Text.IsClosed isKeptChar where
  composites := tables_apart.2.2.1
  expansions := tables_apart.2.2.2.1
  syllables n hn := by
    rw [isKeptChar, not_testBit_of_and tables_apart.2.1 hn]
    rfl

/-- Nor does it have a small letter of its own in ASCII. -/
theorem toLower_of_isKeptChar {c : Char} (h : isKeptChar c.toNat) (hc : c.toNat < 128) : c.toLower = c := by
  have hn := List.all_eq_true.1 tables_apart.2.2.2.2.2.2 c.toNat (List.mem_range.2 hc)
  rw [h, Bool.not_true, Bool.false_or, beq_iff_eq, Char.ofNat_toNat] at hn
  exact hn

/-- **Such a character stands for itself.** -/
theorem mapped?_of_isKeptChar (h : isKeptChar n) : mapped? n = some [n] := by
  rw [isKeptChar, Bool.not_eq_true'] at h
  obtain ⟨hdisallowed, h⟩ := not_testBit_or h
  obtain ⟨hignored, h⟩ := not_testBit_or h
  obtain ⟨hruns, hexpansions⟩ := not_testBit_or h
  have hrun : runs.findSome? (·.image? n) = none := by
    rw [List.findSome?_eq_none_iff]
    intro r hr
    unfold Run.image?
    split_ifs with hcovered
    · have hbit := @testBit_run _ _ r.first hcovered
      rw [Nat.add_sub_cancel' hcovered.1] at hbit
      rw [runBits, testBit_foldr.2 ⟨r, hr, hbit⟩] at hruns
      cases hruns
    · rfl
  rw [mapped?, has_eq_testBit, has_eq_testBit, hdisallowed, hignored, hrun,
    lookup_eq_none_iff.2 hexpansions]
  rfl

theorem isKeptChar_of_tables (hdisallowed : disallowed.has n = false) (hignored : ignored.has n = false)
    (hrun : runs.findSome? (·.image? n) = none) (hlookup : expansions.lookup n = none) : isKeptChar n := by
  rw [has_eq_testBit] at hdisallowed hignored
  have hruns : runBits.testBit n = false := by
    by_contra hbit
    rw [Bool.not_eq_false, runBits, testBit_foldr] at hbit
    obtain ⟨r, hr, hbit⟩ := hbit
    have hnone := List.findSome?_eq_none_iff.1 hrun r hr
    rw [Run.image?, if_pos (covered_of_testBit hr hbit)] at hnone
    cases hnone
  rw [isKeptChar, changedBits, Nat.testBit_or, Nat.testBit_or, Nat.testBit_or, hdisallowed, hignored,
    hruns, lookup_eq_none_iff.1 hlookup]
  rfl

/-- **What a character stands for is made of such characters.** -/
theorem isKeptChar_of_mapped? {ns : List Nat} (h : mapped? n = some ns) (hm : m ∈ ns) : isKeptChar m := by
  -- what a run or an expansion leads to is kept, by the tables
  have himage : ∀ {m}, imageBits.testBit m → isKeptChar m := by
    intro m himage
    rw [isKeptChar, not_testBit_of_and tables_apart.1 himage]
    rfl
  unfold mapped? at h
  split_ifs at h with hdisallowed hignored
  · cases h
    cases hm
  split at h
  · next k hrun =>
    cases h
    obtain ⟨r, hr, hk⟩ := List.exists_of_findSome?_eq_some hrun
    unfold Run.image? at hk
    split_ifs at hk with hcovered
    rw [Option.some.injEq] at hk
    rw [List.mem_singleton.1 hm, ← hk]
    exact himage (testBit_or_left (testBit_foldr.2 ⟨r, hr, testBit_run hcovered⟩))
  · next hrun =>
    cases hlookup : expansions.lookup n with
    | some ms =>
      rw [hlookup, Option.getD_some] at h
      cases h
      exact himage (testBit_or_right (testBit_bits.2
        (List.mem_flatMap_of_mem (f := (·.2)) (mem_of_lookup hlookup) hm)))
    | none =>
      rw [hlookup, Option.getD_none] at h
      cases h
      rw [List.mem_singleton.1 hm]
      exact isKeptChar_of_tables (by simpa using hdisallowed) (by simpa using hignored) hrun hlookup

end XmlAudit.Url.Name
