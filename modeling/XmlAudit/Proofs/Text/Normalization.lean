import XmlAudit.Proofs.Text.Decomposition
import XmlAudit.Proofs.Text.Reordering
import XmlAudit.Proofs.Text.Words

/-!
# The normal form of texts

* `IsClosed`: a set of characters that are neither left nor entered by normal forms.
* `inOrder_decompose_recompose`: letters and marks put together are taken apart again.
* `normalize_normalize`: a text in normal form stays as it is.
* `splitFrom_normalize`: the words of a text between dots have their normal forms on their own.
-/

namespace XmlAudit.Text

variable {ns marks : List Nat} {n m letter a b c : Nat}

/-! ## Letters and marks taken apart again -/

theorem flatMap_decompose_of_isSimple (h : ∀ n ∈ ns, IsSimple n) : ns.flatMap decompose = ns := by
  induction ns with
  | nil => rfl
  | cons n ns ih =>
    obtain ⟨hn, hns⟩ := List.forall_mem_cons.1 h
    rw [List.flatMap_cons, decompose_of_isSimple hn, ih hns, List.singleton_append]

/-- **Characters that were put together are taken apart again,** up to the order of marks. -/
theorem inOrder_decompose_recomposeFrom (hclass : ∀ m ∈ marks, combiningClass m ≠ 0)
    (hmarks : ∀ m ∈ marks, IsSimple m) (hns : ∀ n ∈ ns, IsSimple n) (before : List Nat) :
    inOrder (before ++ (recomposeFrom letter marks ns).flatMap decompose) =
      inOrder (before ++ (decompose letter ++ (marks.reverse ++ ns))) := by
  have hreverse : ∀ {ms : List Nat}, (∀ m ∈ ms, IsSimple m) → ms.reverse.flatMap decompose = ms.reverse :=
    fun h => flatMap_decompose_of_isSimple fun m hm => h m (List.mem_reverse.1 hm)
  induction ns generalizing letter marks before with
  | nil =>
    rw [recomposeFrom, List.flatMap_cons, hreverse hmarks, List.append_nil]
  | cons n ns ih =>
    obtain ⟨hn, hns'⟩ := List.forall_mem_cons.1 hns
    rw [recomposeFrom]
    split
    · next c hc =>
      -- The mark comes to the letter past marks of lower classes.
      split_ifs at hc with hnear
      rw [ih hclass hmarks hns', decompose_of_compose? hc]
      cases hempty : marks with
      | nil => simp
      | cons first others =>
        have hbelow : ∀ m ∈ marks, combiningClass m < combiningClass n := by
          simpa using hnear
        have hmark : combiningClass n ≠ 0 := by
          have hfirst := hbelow first (hempty ▸ List.mem_cons_self)
          omega
        have hswap : ∀ pending, inOrderFrom pending (n :: marks.reverse ++ ns) =
            inOrderFrom pending (marks.reverse ++ n :: ns) := fun pending =>
          inOrderFrom_swap hmark fun m hm =>
            ⟨hclass m (List.mem_reverse.1 hm), (hbelow m (List.mem_reverse.1 hm)).ne⟩
        have hmoved := @inOrderFrom_append_congr (before ++ decompose letter) _ _ hswap []
        rw [← hempty]
        simpa [inOrder] using hmoved
    · split_ifs with hletter
      · have hnone : ∀ {p : Nat → Prop}, ∀ m ∈ ([] : List Nat), p m := fun m hm => absurd hm List.not_mem_nil
        have hrest := @ih [] n hnone hnone hns' (before ++ (decompose letter ++ marks.reverse))
        rw [List.cons_append, List.flatMap_cons, List.flatMap_append, hreverse hmarks]
        rw [decompose_of_isSimple hn] at hrest
        simpa using hrest
      · have hrest := @ih (n :: marks) letter
          (List.forall_mem_cons.2 ⟨hletter, hclass⟩) (List.forall_mem_cons.2 ⟨hn, hmarks⟩) hns' before
        simpa using hrest

theorem inOrder_decompose_recompose (h : ∀ n ∈ ns, IsSimple n) :
    inOrder ((recompose ns).flatMap decompose) = inOrder ns := by
  unfold recompose
  dsimp only
  split
  · rw [flatMap_decompose_of_isSimple h]
  · next letter rest hdrop =>
    have hsplit := List.takeWhile_append_dropWhile (p := fun n => decide (combiningClass n ≠ 0)) (l := ns)
    rw [hdrop] at hsplit
    have hsimple : ∀ n ∈ ns.takeWhile (fun n => decide (combiningClass n ≠ 0)) ++ letter :: rest,
        IsSimple n := by
      rwa [hsplit]
    have hmarks := flatMap_decompose_of_isSimple fun n hn => hsimple n (List.mem_append_left _ hn)
    have hletter := hsimple letter (List.mem_append_right _ List.mem_cons_self)
    have hrest : ∀ n ∈ rest, IsSimple n :=
      fun n hn => hsimple n (List.mem_append_right _ (List.mem_cons_of_mem _ hn))
    have hagain := @inOrder_decompose_recomposeFrom _ [] letter (fun m hm => nomatch hm)
      (fun m hm => nomatch hm) hrest (ns.takeWhile fun n => decide (combiningClass n ≠ 0))
    rw [List.flatMap_append, hmarks, hagain, decompose_of_isSimple hletter]
    rw [List.reverse_nil, List.nil_append, List.singleton_append, hsplit]

/-- The normal form of code points. -/
def normalForm (ns : List Nat) : List Nat := recompose (inOrder (ns.flatMap decompose))

theorem normalForm_normalForm (ns : List Nat) : normalForm (normalForm ns) = normalForm ns := by
  have hsimple : ∀ n ∈ inOrder (ns.flatMap decompose), IsSimple n := by
    intro n hn
    obtain ⟨m, -, hm⟩ := List.mem_flatMap.1 (mem_inOrder.1 hn)
    exact isSimple_of_mem_decompose hm
  rw [normalForm, normalForm, inOrder_decompose_recompose hsimple, inOrder_inOrder]

/-! ## Sets of characters closed under normal forms -/

/-- **A set of characters that is closed under normal forms**: a composite is in it if and only if
both of its parts are, and so are all syllables and their letters. -/
structure IsClosed (p : Nat → Bool) : Prop where
  composites : composites.all fun e => p e.1 == (p e.2.1 && p e.2.2)
  expansions : expansions.all fun e => !p e.1 || e.2.all p
  syllables : ∀ n, (syllableBits ||| syllablePartBits).testBit n → p n

variable {p : Nat → Bool}

theorem IsClosed.parts (h : IsClosed p) (hmem : (c, a, b) ∈ Text.composites) : p c = (p a && p b) := by
  have heq := List.all_eq_true.1 h.composites _ hmem
  exact beq_iff_eq.1 heq

theorem IsClosed.of_mem_decomposeFrom (h : IsClosed p) {fuel : Nat} (hn : p n)
    (hm : m ∈ decomposeFrom fuel n) : p m := by
  induction fuel generalizing n with
  | zero => rwa [List.mem_singleton.1 hm]
  | succ fuel ih =>
    rw [decomposeFrom] at hm
    split_ifs at hm with hsyllable
    · exact h.syllables m (testBit_or_right (testBit_of_mem_syllableLetters (by omega) hm))
    split at hm
    · next a b hlookup =>
      have hparts := h.parts (mem_of_lookup_composites hlookup)
      rw [hn, eq_comm, Bool.and_eq_true] at hparts
      rcases List.mem_append.1 hm with hm | hm
      · exact ih hparts.1 hm
      · rw [List.mem_singleton.1 hm]
        exact hparts.2
    · cases hexpanded : Text.expansions.lookup n with
      | none =>
        rw [hexpanded, Option.getD_none, List.mem_singleton] at hm
        rwa [hm]
      | some ns =>
        rw [hexpanded, Option.getD_some] at hm
        have hall := List.all_eq_true.1 h.expansions _ (mem_of_lookup hexpanded)
        rw [hn, Bool.not_true, Bool.false_or] at hall
        exact List.all_eq_true.1 hall m hm

theorem IsClosed.of_compose? (h : IsClosed p) (ha : p a) (hb : p b) (hc : compose? a b = some c) : p c := by
  rw [compose?, Option.or_eq_some_iff] at hc
  rcases hc with hc | ⟨-, hc⟩
  · apply h.syllables c
    apply testBit_or_left
    rw [syllableBits, testBit_rangeBits]
    unfold syllable? at hc
    split_ifs at hc <;> rw [Option.some.injEq] at hc <;> omega
  · obtain ⟨⟨c', q⟩, hfind, rfl⟩ := Option.map_eq_some_iff.1 hc
    have hq : q = (a, b) := by simpa using List.find?_some hfind
    rw [h.parts (hq ▸ List.mem_of_find?_eq_some hfind), ha, hb]
    rfl

theorem IsClosed.of_mem_recomposeFrom (h : IsClosed p) (hletter : p letter) (hmarks : ∀ m ∈ marks, p m)
    (hns : ∀ n ∈ ns, p n) (hm : m ∈ recomposeFrom letter marks ns) : p m := by
  induction ns generalizing letter marks with
  | nil =>
    rcases List.mem_cons.1 hm with rfl | hm
    · exact hletter
    · exact hmarks m (List.mem_reverse.1 hm)
  | cons n ns ih =>
    obtain ⟨hn, hns'⟩ := List.forall_mem_cons.1 hns
    rw [recomposeFrom] at hm
    split at hm
    · next c hc =>
      split_ifs at hc
      exact ih (h.of_compose? hletter hn hc) hmarks hns' hm
    · split_ifs at hm
      · rw [List.cons_append, List.mem_cons, List.mem_append] at hm
        rcases hm with rfl | hm | hm
        · exact hletter
        · exact hmarks m (List.mem_reverse.1 hm)
        · exact ih hn (fun _ h => absurd h List.not_mem_nil) hns' hm
      · exact ih hletter (List.forall_mem_cons.2 ⟨hn, hmarks⟩) hns' hm

/-- **The normal form of characters of a closed set** is in it as well. -/
theorem IsClosed.of_mem_normalForm (h : IsClosed p) (hns : ∀ n ∈ ns, p n) (hm : m ∈ normalForm ns) :
    p m := by
  have hordered : ∀ n ∈ inOrder (ns.flatMap decompose), p n := by
    intro n hn
    obtain ⟨k, hk, hn⟩ := List.mem_flatMap.1 (mem_inOrder.1 hn)
    exact h.of_mem_decomposeFrom (hns k hk) hn
  unfold normalForm recompose at hm
  dsimp only at hm
  split at hm
  · exact hordered m hm
  · next letter rest hdrop =>
    have hsuffix := List.dropWhile_suffix (l := inOrder (ns.flatMap decompose))
      fun n => decide (combiningClass n ≠ 0)
    rw [hdrop] at hsuffix
    rcases List.mem_append.1 hm with hm | hm
    · exact hordered m ((List.takeWhile_prefix _).subset hm)
    · exact h.of_mem_recomposeFrom (hordered letter (hsuffix.subset List.mem_cons_self))
        (fun _ h => absurd h List.not_mem_nil)
        (fun n hn => hordered n (hsuffix.subset (List.mem_cons_of_mem _ hn))) hm

/-! ## Texts -/

/-- Code points of characters. -/
def isCodePoint (n : Nat) : Bool := n < 0xD800 || (0xDFFF < n && n < 0x110000)

theorem isCodePoint_toNat (c : Char) : isCodePoint c.toNat := by
  have hc : c.toNat < 0xD800 ∨ 0xDFFF < c.toNat ∧ c.toNat < 0x110000 := c.valid
  simpa [isCodePoint] using hc

theorem toNat_ofNat_of_isCodePoint (h : isCodePoint n) : (Char.ofNat n).toNat = n := by
  simp only [isCodePoint, Bool.or_eq_true, Bool.and_eq_true, decide_eq_true_eq] at h
  have hvalid : n.isValidChar := h
  rw [Char.toNat_ofNat, if_pos hvalid]

/-- The tables keep to characters, and a dot is in none of them. -/
theorem tables_kept :
    (Text.composites.all fun e => isCodePoint e.1 == (isCodePoint e.2.1 && isCodePoint e.2.2)) ∧
      (Text.expansions.all fun e => !isCodePoint e.1 || e.2.all isCodePoint) ∧
      (Text.composites.all fun e =>
        (e.1 != '.'.toNat) == ((e.2.1 != '.'.toNat) && (e.2.2 != '.'.toNat))) ∧
      (Text.expansions.all fun e => !(e.1 != '.'.toNat) || e.2.all (· != '.'.toNat)) ∧
      (compoundBits ||| (firstBits ||| (syllableBits ||| syllablePartBits) |||
        (secondBits ||| syllablePartBits))).testBit '.'.toNat = false := by
  decide +kernel

theorem isClosed_isCodePoint : IsClosed isCodePoint where
  composites := tables_kept.1
  expansions := tables_kept.2.1
  syllables n hn := by
    rw [Nat.testBit_or, Bool.or_eq_true, syllableBits, testBit_rangeBits, testBit_syllablePartBits] at hn
    simp [isCodePoint]
    omega

theorem normalize_eq (cs : List Char) : normalize cs = (normalForm (cs.map Char.toNat)).map Char.ofNat := by
  rw [normalize, normalForm, List.flatMap_map]

theorem map_toNat_normalize (cs : List Char) :
    (normalize cs).map Char.toNat = normalForm (cs.map Char.toNat) := by
  rw [normalize_eq, List.map_map]
  refine (List.map_congr_left fun n hn => ?_).trans (List.map_id _)
  apply toNat_ofNat_of_isCodePoint
  refine isClosed_isCodePoint.of_mem_normalForm (fun n hn => ?_) hn
  obtain ⟨c, -, rfl⟩ := List.mem_map.1 hn
  exact isCodePoint_toNat c

/-- **A text in normal form stays as it is.** -/
theorem normalize_normalize (cs : List Char) : normalize (normalize cs) = normalize cs := by
  rw [normalize_eq (normalize cs), map_toNat_normalize, normalForm_normalForm, ← normalize_eq]

/-- The normal form of a text with characters of a closed set only. -/
theorem IsClosed.of_mem_normalize (h : IsClosed p) {cs : List Char} (hcs : ∀ c ∈ cs, p c.toNat) {c : Char}
    (hc : c ∈ normalize cs) : p c.toNat := by
  have hmem := List.mem_map_of_mem (f := Char.toNat) hc
  rw [map_toNat_normalize] at hmem
  exact h.of_mem_normalForm (by simpa using hcs) hmem

/-! ## Words between dots -/

theorem compose?_eq_none (h : (firstBits ||| (syllableBits ||| syllablePartBits)).testBit a = false ∨
    (secondBits ||| syllablePartBits).testBit b = false) : compose? a b = none := by
  -- what is put together with something is listed as a first or a second part
  suffices hparts : ∀ c, compose? a b = some c →
      (firstBits ||| (syllableBits ||| syllablePartBits)).testBit a ∧
      (secondBits ||| syllablePartBits).testBit b by
    cases hc : compose? a b with
    | none => rfl
    | some c =>
      obtain ⟨ha, hb⟩ := hparts c hc
      rw [ha, hb] at h
      simp at h
  intro c hc
  rw [compose?, Option.or_eq_some_iff] at hc
  rcases hc with hc | ⟨-, hc⟩
  · have hb : syllablePartBits.testBit b := by
      rw [testBit_syllablePartBits]
      unfold syllable? at hc
      split_ifs at hc <;> omega
    have ha : (syllableBits ||| syllablePartBits).testBit a := by
      rw [Nat.testBit_or, Bool.or_eq_true, syllableBits, testBit_rangeBits, testBit_syllablePartBits]
      unfold syllable? at hc
      split_ifs at hc <;> omega
    exact ⟨testBit_or_right ha, testBit_or_right hb⟩
  · obtain ⟨⟨c', q⟩, hfind, rfl⟩ := Option.map_eq_some_iff.1 hc
    have hq : q = (a, b) := by simpa using List.find?_some hfind
    have hmem := hq ▸ List.mem_of_find?_eq_some hfind
    exact ⟨testBit_or_left (testBit_firstBits_of_mem hmem),
      testBit_or_left (testBit_secondBits_of_mem hmem)⟩

/-- **A letter that stands by itself**: it is put together with no other character. -/
structure IsInert (n : Nat) : Prop where
  letter : combiningClass n = 0
  simple : IsSimple n
  first : ∀ b, compose? n b = none
  second : ∀ a, compose? a n = none

theorem isInert_dot : IsInert '.'.toNat := by
  obtain ⟨hsimple, hparts⟩ := not_testBit_or tables_kept.2.2.2.2
  obtain ⟨hfirst, hsecond⟩ := not_testBit_or hparts
  exact ⟨by decide, hsimple, fun _ => compose?_eq_none (.inl hfirst), fun _ => compose?_eq_none (.inr hsecond)⟩

theorem recompose_cons_mark (hn : combiningClass n ≠ 0) (ns : List Nat) :
    recompose (n :: ns) = n :: recompose ns := by
  unfold recompose
  dsimp only
  rw [List.dropWhile_cons_of_pos (by simpa using hn), List.takeWhile_cons_of_pos (by simpa using hn)]
  split <;> rfl

theorem recompose_cons_letter (hn : combiningClass n = 0) (ns : List Nat) :
    recompose (n :: ns) = recomposeFrom n [] ns := by
  unfold recompose
  dsimp only
  rw [List.dropWhile_cons_of_neg (by simpa using hn), List.takeWhile_cons_of_neg (by simpa using hn)]
  rfl

/-- Nothing comes to a letter that stands by itself. -/
theorem IsInert.recomposeFrom (h : IsInert letter) (marks ns : List Nat) :
    recomposeFrom letter marks ns = letter :: marks.reverse ++ recompose ns := by
  induction ns generalizing marks with
  | nil => rw [Text.recomposeFrom, recompose, List.dropWhile_nil, List.append_nil]
  | cons n ns ih =>
    rw [Text.recomposeFrom, h.first, ite_self]
    dsimp only
    split_ifs with hn
    · rw [recompose_cons_letter hn]
    · rw [ih, recompose_cons_mark hn, List.reverse_cons, List.cons_append, List.append_assoc]
      rfl

theorem IsInert.recomposeFrom_append (h : IsInert n) (marks ns rest : List Nat) :
    Text.recomposeFrom letter marks (ns ++ n :: rest) =
      Text.recomposeFrom letter marks ns ++ n :: recompose rest := by
  induction ns generalizing letter marks with
  | nil =>
    rw [List.nil_append, Text.recomposeFrom, Text.recomposeFrom, h.second, ite_self]
    dsimp only
    rw [if_pos h.letter, h.recomposeFrom]
    rfl
  | cons m ns ih =>
    rw [List.cons_append, Text.recomposeFrom, Text.recomposeFrom]
    split
    · exact ih _
    · split_ifs
      · rw [ih, List.append_assoc]
      · exact ih _

theorem IsInert.recompose_append (h : IsInert n) (ns rest : List Nat) :
    recompose (ns ++ n :: rest) = recompose ns ++ n :: recompose rest := by
  induction ns with
  | nil =>
    rw [List.nil_append, recompose_cons_letter h.letter, h.recomposeFrom]
    rfl
  | cons m ns ih =>
    by_cases hm : combiningClass m = 0
    · rw [List.cons_append, recompose_cons_letter hm, recompose_cons_letter hm, h.recomposeFrom_append]
    · rw [List.cons_append, recompose_cons_mark hm, recompose_cons_mark hm, ih, List.cons_append]

theorem IsInert.normalForm_append (h : IsInert n) (ns rest : List Nat) :
    normalForm (ns ++ n :: rest) = normalForm ns ++ n :: normalForm rest := by
  rw [normalForm, List.flatMap_append, List.flatMap_cons, decompose_of_isSimple h.simple,
    List.singleton_append, inOrder, inOrderFrom_append_letter h.letter, h.recompose_append]
  rfl

theorem normalize_append_dot (cs rest : List Char) :
    normalize (cs ++ '.' :: rest) = normalize cs ++ '.' :: normalize rest := by
  rw [normalize_eq, List.map_append, List.map_cons, isInert_dot.normalForm_append, List.map_append,
    List.map_cons, ← normalize_eq, ← normalize_eq]
  rfl

theorem isClosed_ne_dot : IsClosed (· != '.'.toNat) where
  composites := tables_kept.2.2.1
  expansions := tables_kept.2.2.2.1
  syllables n hn := by
    rw [Nat.testBit_or, Bool.or_eq_true, syllableBits, testBit_rangeBits, testBit_syllablePartBits] at hn
    have hdot : '.'.toNat = 46 := rfl
    rw [bne_iff_ne, hdot]
    omega

theorem dot_not_mem_normalize {cs : List Char} (h : '.' ∉ cs) : '.' ∉ normalize cs := by
  intro hmem
  have hne := isClosed_ne_dot.of_mem_normalize (fun c hc => ?_) hmem
  · simp at hne
  · rw [bne_iff_ne]
    intro heq
    exact h (Char.toNat_inj.1 heq ▸ hc)

/-- **The words of a text between dots have their normal forms on their own.** -/
theorem splitFrom_normalize (cs : List Char) :
    splitFrom '.' [] (normalize cs) = (splitFrom '.' [] cs).map normalize := by
  induction hlength : cs.length using Nat.strong_induction_on generalizing cs with
  | _ k ih =>
    by_cases hdot : '.' ∈ cs
    · obtain ⟨w, rest, rfl, hw⟩ := List.eq_append_cons_of_mem hdot
      have hshort : rest.length < k := by
        rw [← hlength, List.length_append, List.length_cons]
        omega
      rw [normalize_append_dot, splitFrom_append_mark (dot_not_mem_normalize hw),
        splitFrom_append_mark hw, ih _ hshort rest rfl, List.map_cons]
    · rw [splitFrom_of_not_mem hdot, splitFrom_of_not_mem (dot_not_mem_normalize hdot),
        List.map_singleton]

end XmlAudit.Text
