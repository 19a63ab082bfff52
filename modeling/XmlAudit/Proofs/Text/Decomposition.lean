import XmlAudit.Proofs.Outcome
import XmlAudit.Proofs.Text.Bits
import XmlAudit.Text.Decomposition

/-!
# What characters stand for

* `IsSimple`: a character that stands for itself only.
* `isSimple_of_mem_decompose`: what a character stands for is made of such characters.
* `decompose_of_compose?`: a character that stands for two others stands for what they do.
-/

namespace XmlAudit.Text

variable {n m a b c : Nat}

/-! ## The tables as sets -/

/-- The syllables of the Korean alphabet. -/
def syllableBits : Nat := rangeBits 0xAC00 (0xAC00 + 11171)

/-- The first letters, the vowels and the last letters of such syllables. -/
def syllablePartBits : Nat :=
  rangeBits 0x1100 0x1112 ||| (rangeBits 0x1161 0x1175 ||| rangeBits 0x11A8 0x11C2)

/-- The characters that stand for two others. -/
def compositeBits : Nat := bits (composites.map (·.1))

/-- The first of these two. -/
def firstBits : Nat := bits (composites.map (·.2.1))

/-- The second of these two. -/
def secondBits : Nat := bits (composites.map (·.2.2))

/-- The characters that are never written for those that they stand for. -/
def expandedBits : Nat := bits (expansions.map (·.1))

/-- What these stand for. -/
def expansionBits : Nat := bits (expansions.flatMap (·.2))

/-- The characters that stand for others. -/
def compoundBits : Nat := syllableBits ||| (compositeBits ||| expandedBits)

/-- The composites of which the first parts are composites, and so on, `depth` times. -/
def deepBits : Nat → Nat
  | 0 => compositeBits
  | depth + 1 => bits ((composites.filter fun e => (deepBits depth).testBit e.2.1).map (·.1))

/-- How the tables overlap, and that one of them is sorted: what their entries have to be looked at
for. -/
theorem tables_apart :
    (secondBits ||| (expansionBits ||| syllablePartBits)) &&& compoundBits = 0 ∧
      firstBits &&& (syllableBits ||| expandedBits) = 0 ∧ compositeBits &&& syllableBits = 0 ∧
      firstBits &&& deepBits 2 = 0 ∧ (composites.map (·.1)).IsChain (· < ·) := by
  decide +kernel

theorem parts_and_compound :
    (secondBits ||| (expansionBits ||| syllablePartBits)) &&& compoundBits = 0 :=
  tables_apart.1

theorem first_and_plain : firstBits &&& (syllableBits ||| expandedBits) = 0 := tables_apart.2.1

theorem composite_and_syllable : compositeBits &&& syllableBits = 0 := tables_apart.2.2.1

theorem first_and_deep : firstBits &&& deepBits 2 = 0 := tables_apart.2.2.2.1

theorem isChain_composites : (composites.map (·.1)).IsChain (· < ·) := tables_apart.2.2.2.2

/-! ## Characters that stand for themselves -/

/-- **A character that stands for itself only.** -/
def IsSimple (n : Nat) : Prop := compoundBits.testBit n = false

theorem mem_of_lookup_composites {p : Nat × Nat} (h : composites.lookup n = some p) :
    (n, p) ∈ composites :=
  mem_of_lookup h

theorem testBit_compositeBits_of_mem {p : Nat × Nat} (h : (n, p) ∈ composites) :
    compositeBits.testBit n :=
  testBit_bits.2 (List.mem_map_of_mem (f := (·.1)) h)

theorem testBit_firstBits_of_mem (h : (c, a, b) ∈ composites) : firstBits.testBit a :=
  testBit_bits.2 (List.mem_map_of_mem (f := (·.2.1)) h)

theorem testBit_secondBits_of_mem (h : (c, a, b) ∈ composites) : secondBits.testBit b :=
  testBit_bits.2 (List.mem_map_of_mem (f := (·.2.2)) h)

/-- No two entries are for the same composite. -/
theorem lookup_composites (h : (c, a, b) ∈ composites) : composites.lookup c = some (a, b) := by
  have hnodup : (composites.map (·.1)).Nodup := (List.isChain_iff_pairwise.1 isChain_composites).imp ne_of_lt
  apply lookup_of_unique h
  intro p hp
  exact congrArg Prod.snd (List.inj_on_of_nodup_map hnodup hp h rfl)

theorem not_syllable_of_testBit (h : syllableBits.testBit n = false) :
    ¬(0xAC00 ≤ n ∧ n < 0xAC00 + 11172) := by
  intro hsyllable
  rw [syllableBits, testBit_rangeBits.2 ⟨hsyllable.1, by omega⟩] at h
  cases h

theorem decomposeFrom_of_isSimple (h : IsSimple n) (fuel : Nat) : decomposeFrom fuel n = [n] := by
  obtain ⟨hsyllable, hlisted⟩ := not_testBit_or h
  obtain ⟨hcomposite, hexpanded⟩ := not_testBit_or hlisted
  cases fuel with
  | zero => rfl
  | succ fuel =>
    rw [decomposeFrom, if_neg (not_syllable_of_testBit hsyllable), lookup_eq_none_iff.2 hcomposite,
      lookup_eq_none_iff.2 hexpanded]
    rfl

theorem decompose_of_isSimple (h : IsSimple n) : decompose n = [n] := decomposeFrom_of_isSimple h 3

theorem isSimple_of_lookup (hsyllable : ¬(0xAC00 ≤ n ∧ n < 0xAC00 + 11172))
    (hcomposite : composites.lookup n = none) (hexpanded : expansions.lookup n = none) : IsSimple n := by
  have hrange : syllableBits.testBit n = false := by
    by_contra hbit
    rw [Bool.not_eq_false, syllableBits, testBit_rangeBits] at hbit
    omega
  rw [IsSimple, compoundBits, Nat.testBit_or, Nat.testBit_or, hrange, compositeBits,
    lookup_eq_none_iff.1 hcomposite, expandedBits, lookup_eq_none_iff.1 hexpanded]
  rfl

/-! ## The depth of composites -/

theorem not_deep_of_mem {fuel : Nat} (h : (c, a, b) ∈ composites)
    (hdeep : (deepBits (fuel + 1)).testBit c = false) : (deepBits fuel).testBit a = false := by
  by_contra hfirst
  rw [Bool.not_eq_false] at hfirst
  have hkept : (c, a, b) ∈ composites.filter fun e => (deepBits fuel).testBit e.2.1 :=
    List.mem_filter.2 ⟨h, hfirst⟩
  rw [deepBits, testBit_bits.2 (List.mem_map_of_mem (f := (·.1)) hkept)] at hdeep
  cases hdeep

/-- **Further steps change nothing** for a first part of a composite that is not deeper. -/
theorem decomposeFrom_succ {fuel : Nat} (hfirst : firstBits.testBit n)
    (hdeep : (deepBits fuel).testBit n = false) : decomposeFrom fuel n = decomposeFrom (fuel + 1) n := by
  have hplain := not_testBit_of_and first_and_plain hfirst
  obtain ⟨hsyllable, hexpanded⟩ := not_testBit_or hplain
  induction fuel generalizing n with
  | zero =>
    rw [decomposeFrom, decomposeFrom, if_neg (not_syllable_of_testBit hsyllable),
      lookup_eq_none_iff.2 hdeep, lookup_eq_none_iff.2 hexpanded]
    rfl
  | succ fuel ih =>
    rw [decomposeFrom, decomposeFrom, if_neg (not_syllable_of_testBit hsyllable),
      if_neg (not_syllable_of_testBit hsyllable)]
    cases hlookup : composites.lookup n with
    | none => rfl
    | some p =>
      obtain ⟨a, b⟩ := p
      have hmem := mem_of_lookup_composites hlookup
      have ha := testBit_firstBits_of_mem hmem
      have hdeep' := not_deep_of_mem hmem hdeep
      have hplain' := not_testBit_of_and first_and_plain ha
      dsimp only
      rw [ih ha hdeep' hplain' (not_testBit_or hplain').1 (not_testBit_or hplain').2]

theorem decompose_of_mem_composites (h : (c, a, b) ∈ composites) : decompose c = decompose a ++ [b] := by
  have hsyllable : syllableBits.testBit c = false :=
    not_testBit_of_and composite_and_syllable (testBit_compositeBits_of_mem h)
  have hfirst := testBit_firstBits_of_mem h
  have hdeep : (deepBits 2).testBit a = false :=
    not_testBit_of_and first_and_deep hfirst
  rw [decompose, decomposeFrom, if_neg (not_syllable_of_testBit hsyllable), lookup_composites h]
  dsimp only
  rw [decomposeFrom_succ hfirst hdeep, decompose]

/-! ## Parts -/

theorem isSimple_of_testBit_parts
    (h : (secondBits ||| (expansionBits ||| syllablePartBits)).testBit n) : IsSimple n :=
  not_testBit_of_and parts_and_compound h

theorem isSimple_of_mem_composites (h : (c, a, b) ∈ composites) : IsSimple b :=
  isSimple_of_testBit_parts (testBit_or_left (testBit_secondBits_of_mem h))

theorem isSimple_of_mem_expansions {ns : List Nat} (h : (n, ns) ∈ expansions) (hm : m ∈ ns) :
    IsSimple m := by
  have hmem := List.mem_flatMap_of_mem (f := (·.2)) h hm
  exact isSimple_of_testBit_parts (testBit_or_right (testBit_or_left (testBit_bits.2 hmem)))

theorem testBit_syllablePartBits :
    syllablePartBits.testBit n = true ↔
      (0x1100 ≤ n ∧ n ≤ 0x1112) ∨ (0x1161 ≤ n ∧ n ≤ 0x1175) ∨ (0x11A8 ≤ n ∧ n ≤ 0x11C2) := by
  rw [syllablePartBits, Nat.testBit_or, Nat.testBit_or, Bool.or_eq_true, Bool.or_eq_true,
    testBit_rangeBits, testBit_rangeBits, testBit_rangeBits]

theorem testBit_of_mem_syllableLetters {i : Nat} (hi : i < 11172) (h : m ∈ syllableLetters i) :
    syllablePartBits.testBit m := by
  rw [testBit_syllablePartBits]
  unfold syllableLetters at h
  rcases List.mem_append.1 h with h | h
  · simp only [List.mem_cons, List.not_mem_nil, or_false] at h
    omega
  · split_ifs at h
    · cases h
    · rw [List.mem_singleton] at h
      omega

theorem decompose_syllable (h : 0xAC00 ≤ n ∧ n < 0xAC00 + 11172) :
    decompose n = syllableLetters (n - 0xAC00) := by
  rw [decompose, decomposeFrom, if_pos h]

/-- What a character stands for after enough steps. -/
theorem isSimple_of_mem_decomposeFrom {fuel : Nat} (hdeep : (deepBits fuel).testBit n = false)
    (hfirst : fuel = 0 → firstBits.testBit n) (h : m ∈ decomposeFrom fuel n) : IsSimple m := by
  -- by induction on the fuel, of which a character that is not deep has enough
  induction fuel generalizing n with
  | zero =>
    obtain rfl : m = n := List.mem_singleton.1 h
    have hplain := not_testBit_of_and first_and_plain (hfirst rfl)
    obtain ⟨hsyllable, hexpanded⟩ := not_testBit_or hplain
    rw [deepBits] at hdeep
    rw [IsSimple, compoundBits, Nat.testBit_or, Nat.testBit_or, hsyllable, hdeep, hexpanded]
    rfl
  | succ fuel ih =>
    rw [decomposeFrom] at h
    split_ifs at h with hsyllable
    · exact isSimple_of_testBit_parts (testBit_or_right (testBit_or_right
        (testBit_of_mem_syllableLetters (by omega) h)))
    split at h
    · next a b hlookup =>
      have hmem := mem_of_lookup_composites hlookup
      rcases List.mem_append.1 h with h | h
      · exact ih (not_deep_of_mem hmem hdeep) (fun _ => testBit_firstBits_of_mem hmem) h
      · rw [List.mem_singleton.1 h]
        exact isSimple_of_mem_composites hmem
    · next hcomposite =>
      cases hexpanded : expansions.lookup n with
      | some ns =>
        rw [hexpanded, Option.getD_some] at h
        exact isSimple_of_mem_expansions (mem_of_lookup hexpanded) h
      | none =>
        rw [hexpanded, Option.getD_none, List.mem_singleton] at h
        rw [h]
        exact isSimple_of_lookup hsyllable hcomposite hexpanded

/-- **What a character stands for is made of characters that stand for themselves.** -/
theorem isSimple_of_mem_decompose (h : m ∈ decompose n) : IsSimple m := by
  refine isSimple_of_mem_decomposeFrom ?_ (fun hzero => by cases hzero) h
  by_contra hdeep
  rw [Bool.not_eq_false, deepBits, testBit_bits] at hdeep
  obtain ⟨⟨c, a, b⟩, hentry, -⟩ := List.mem_map.1 hdeep
  obtain ⟨hmem, hfirst⟩ := List.mem_filter.1 hentry
  rw [not_testBit_of_and first_and_deep (testBit_firstBits_of_mem hmem)] at hfirst
  cases hfirst

/-! ## Characters put together -/

theorem decompose_of_syllable? (h : syllable? a b = some c) : decompose c = decompose a ++ [b] := by
  unfold syllable? at h
  split_ifs at h with hletters hlast
  · -- A first letter and a vowel are a syllable without a last letter.
    have hc : c = 0xAC00 + ((a - 0x1100) * 21 + (b - 0x1161)) * 28 := (Option.some.inj h).symm
    have ha : decompose a = [a] := by
      apply decompose_of_isSimple
      apply isSimple_of_testBit_parts
      exact testBit_or_right (testBit_or_right (testBit_syllablePartBits.2 (.inl (by omega))))
    have hfirst : 0x1100 + (c - 0xAC00) / 588 = a := by omega
    have hvowel : 0x1161 + (c - 0xAC00) % 588 / 28 = b := by omega
    rw [decompose_syllable (by omega), ha, syllableLetters, hfirst, hvowel, if_pos (by omega)]
    rfl
  · -- A last letter comes to a syllable that has none.
    have hc : c = a + (b - 0x11A7) := (Option.some.inj h).symm
    have hfirst : (c - 0xAC00) / 588 = (a - 0xAC00) / 588 := by omega
    have hvowel : (c - 0xAC00) % 588 / 28 = (a - 0xAC00) % 588 / 28 := by omega
    have hend : 0x11A7 + (c - 0xAC00) % 28 = b := by omega
    rw [decompose_syllable (by omega), decompose_syllable (by omega), syllableLetters, syllableLetters,
      hfirst, hvowel, if_neg (by omega), if_pos hlast.2.2.1, hend]
    rfl

/-- **A character that stands for two others** stands for what they do. -/
theorem decompose_of_compose? (h : compose? a b = some c) : decompose c = decompose a ++ [b] := by
  rw [compose?, Option.or_eq_some_iff] at h
  rcases h with h | ⟨-, h⟩
  · exact decompose_of_syllable? h
  · obtain ⟨⟨c', p⟩, hfind, rfl⟩ := Option.map_eq_some_iff.1 h
    have hp : p = (a, b) := by simpa using List.find?_some hfind
    exact decompose_of_mem_composites (hp ▸ List.mem_of_find?_eq_some hfind)

end XmlAudit.Text
