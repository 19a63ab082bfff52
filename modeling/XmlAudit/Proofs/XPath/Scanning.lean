import XmlAudit.Proofs.Text.Letters
import XmlAudit.XPath.Parser
import XmlAudit.Xml.Name

/-!
# The tokens of names, numbers and signs

* `IsName`: a text that is a name from end to end.
* `IsQName`, `IsToken`: a name that is one token when it is written.
* `Scans`: the tokens of a text, wherever it stands.
* `isQName_iff`: a name is one token exactly if its parts are names.
* `scan_of_isNameStart`: what starts a name is scanned as one.
-/

namespace XmlAudit.XPath

open Xml (QName)

/-! ## Characters -/

/-- In ASCII, a name starts with a letter or a line. -/
theorem isNameStart_of_lt {c : Char} (hc : c.toNat < 128) : isNameStart c = (c.isAlpha || c = '_') := by
  rw [isNameStart, Text.isLetter_of_lt hc]

theorem isNameChar_of_lt {c : Char} (hc : c.toNat < 128) :
    isNameChar c = (c.isAlpha || c.isDigit || c = '_' || c = '-' || c = '.') := by
  have hdot : c ≠ '\u00b7' := by
    rintro rfl
    exact absurd hc (by decide)
  simp [isNameChar, Text.isAlphanumeric, Text.isLetter_of_lt hc, Text.isNumeral_of_lt hc, hdot]

theorem isNameChar_of_isDigit {c : Char} (h : c.isDigit) : isNameChar c := by
  simp [isNameChar, Text.isAlphanumeric, Text.isNumeral, h]

/-- A blank is no part of a name. -/
theorem isBlank_of_isNameChar {c : Char} (h : isNameStart c ∨ isNameChar c) :
    Text.isBlank c = false := by
  rw [Bool.eq_false_iff]
  intro hb
  have hnone := Text.not_isAlphanumeric_of_isBlank hb
  have hletter : Text.isLetter c = false := (Bool.or_eq_false_iff.1 hnone).1
  have hsign : c = '_' ∨ c = '-' ∨ c = '.' ∨ c = '\u00b7' := by
    simpa [isNameStart, isNameChar, hnone, hletter, or_assoc] using h
  rcases hsign with rfl | rfl | rfl | rfl <;> exact absurd hb (by decide)

/-- The characters, beside letters, with which the tokens of an expression start. -/
def signs : List Char :=
  ['/', '|', '+', '-', '=', '!', '<', '>', '(', ')', '[', ']', ',', '@', ':', '.', '"', '\'', '*', '$',
    '0', '1', '2', '3', '4', '5', '6', '7', '8', '9']

/-- The signs beside the names of a path. -/
def pathSigns : List Char := ['/', ':', '[', ']', '(', ')', '@']

/-- No sign starts a name. -/
theorem not_mem_signs {c : Char} (h : isNameStart c) : c ∉ signs := by
  have hnone : signs.all fun d => d.toNat < 128 && !(d.isAlpha || d = '_') := by decide
  intro hc
  have hsign := List.all_eq_true.1 hnone c hc
  rw [Bool.and_eq_true, decide_eq_true_eq, Bool.not_eq_true'] at hsign
  rw [isNameStart_of_lt hsign.1, hsign.2] at h
  cases h

/-- What holds of the ten digits holds of every digit. -/
theorem forall_isDigit {p : Char → Prop} (h : ∀ n ∈ List.range' 48 10, p (Char.ofNat n)) {c : Char}
    (hc : c.isDigit) : p c := by
  have hb : 48 ≤ c.toNat ∧ c.toNat ≤ 57 := by
    simpa [Char.isDigit, UInt32.le_iff_toNat_le] using hc
  rw [← Char.ofNat_toNat c]
  exact h _ (List.mem_range'_1.2 ⟨hb.1, by omega⟩)

theorem mem_signs {c : Char} (h : c.isDigit) : c ∈ signs := by
  refine forall_isDigit ?_ h
  decide

/-- No sign of a path is a character of a name. -/
theorem isNameChar_pathSigns {c : Char} (h : c ∈ pathSigns) : isNameChar c = false := by
  have hnone : pathSigns.all fun d => d.toNat < 128 &&
      !(d.isAlpha || d.isDigit || d = '_' || d = '-' || d = '.') := by decide
  have hsign := List.all_eq_true.1 hnone c h
  rw [Bool.and_eq_true, decide_eq_true_eq, Bool.not_eq_true'] at hsign
  rw [isNameChar_of_lt hsign.1, hsign.2]

/-! ## Names -/

/-- A text that is a name from end to end. -/
def IsName (cs : List Char) : Prop := cs ≠ [] ∧ leadingName cs = cs

theorem isName_iff {cs : List Char} :
    IsName cs ↔ ∃ c rest, cs = c :: rest ∧ isNameStart c ∧ ∀ a ∈ cs, isNameChar a := by
  constructor
  · rintro ⟨hne, h⟩
    cases cs with
    | nil => exact absurd rfl hne
    | cons c rest =>
      rw [leadingName] at h
      split at h
      · next hs => exact ⟨c, rest, rfl, hs, List.takeWhile_eq_self_iff.1 h⟩
      · cases h
  · rintro ⟨c, rest, rfl, hs, hall⟩
    refine ⟨List.cons_ne_nil _ _, ?_⟩
    rw [leadingName, if_pos hs]
    exact List.takeWhile_eq_self_iff.2 hall

theorem IsName.not_mem {cs : List Char} (h : IsName cs) {c : Char} (hc : c ∈ pathSigns) :
    c ∉ cs := by
  obtain ⟨-, -, -, -, hall⟩ := isName_iff.1 h
  exact fun hmem => Bool.eq_false_iff.1 (isNameChar_pathSigns hc) (hall c hmem)

/-- What a name cannot be followed by without growing. -/
def EndsName (rest : List Char) : Prop := ∀ c ∈ rest.head?, isNameChar c = false

theorem leadingName_append {cs rest : List Char} (h : IsName cs) (hr : EndsName rest) :
    leadingName (cs ++ rest) = cs := by
  obtain ⟨c, tail, rfl, hs, hall⟩ := isName_iff.1 h
  rw [List.cons_append, leadingName, if_pos hs, ← List.cons_append,
    List.takeWhile_append_of_pos hall]
  cases rest with
  | nil => simp
  | cons r rest => rw [List.takeWhile_cons_of_neg (by simp [hr r rfl]), List.append_nil]

/-- What is read as a name is one. -/
theorem isName_leadingName {cs : List Char} (h : leadingName cs ≠ []) : IsName (leadingName cs) := by
  cases cs with
  | nil => exact absurd rfl h
  | cons c rest =>
    rw [leadingName] at h ⊢
    split at h
    · next hs =>
      rw [if_pos hs]
      by_cases hc : isNameChar c
      · rw [List.takeWhile_cons_of_pos hc] at h ⊢
        refine isName_iff.2 ⟨c, _, rfl, hs, ?_⟩
        rw [List.forall_mem_cons]
        exact ⟨hc, fun a ha => List.mem_takeWhile_imp ha⟩
      · rw [List.takeWhile_cons_of_neg hc] at h
        exact absurd rfl h
    · exact absurd rfl h

/-- A name whose parts are names. -/
def IsQName (n : QName) : Prop :=
  IsName n.localPart.toList ∧ ∀ q ∈ n.qualifier, IsName q.toList

/-- The test for a name as written. -/
def testOf (n : QName) : NameTest := .name n.qualifier n.localPart

theorem toList_render (n : QName) : n.render.toList =
    (n.qualifier.elim [] fun q => q.toList ++ [':']) ++ n.localPart.toList := by
  rw [QName.render]
  cases n.qualifier <;> simp [String.toList_append]

theorem endsName_nil : EndsName [] := fun c hc => by cases hc

theorem endsName_sign {c : Char} (hc : c ∈ pathSigns) (rest : List Char) : EndsName (c :: rest) := by
  intro d hd
  cases hd
  exact isNameChar_pathSigns hc

/-- A name behind a qualifier is one token with it, whatever sign is behind. -/
theorem leadingQName?_qualified {q l : String} {rest : List Char} (hq : IsName q.toList)
    (hl : IsName l.toList) (hr : EndsName rest) :
    leadingQName? (q.toList ++ ':' :: (l.toList ++ rest)) =
      some (.name (some q) l, q.toList.length + 1 + l.toList.length) := by
  have hfirst : leadingName (q.toList ++ (':' :: (l.toList ++ rest))) = q.toList :=
    leadingName_append hq (endsName_sign (by decide) _)
  have hsecond := leadingName_append hl hr
  obtain ⟨c, tail, htail, hs, -⟩ := isName_iff.1 hl
  have hstar : c ≠ '*' := by
    rintro rfl
    exact not_mem_signs hs (by decide)
  rw [leadingQName?]
  -- the colon is followed by a name, and so neither by a star nor by nothing
  simp only [hfirst, List.isEmpty_iff, if_neg hq.1, List.drop_left', String.ofList_toList]
  split
  · next heq =>
    rw [htail] at heq
    cases heq
    exact absurd rfl hstar
  · next later _ heq =>
    cases heq
    rw [hsecond, if_neg hl.1, String.ofList_toList]
  · next hno => exact absurd rfl (hno _)

/-- **A name is one token** where it is followed by nothing that belongs to it. -/
theorem leadingQName?_append {n : QName} {rest : List Char} (h : IsQName n) (hr : EndsName rest)
    (hcolon : rest.head? ≠ some ':') :
    leadingQName? (n.render.toList ++ rest) = some (testOf n, n.render.toList.length) := by
  obtain ⟨q, l⟩ := n
  obtain ⟨hl, hq⟩ := h
  rw [toList_render, testOf]
  cases q with
  | none =>
    have hfirst := leadingName_append hl hr
    simp only [Option.elim, List.nil_append]
    rw [leadingQName?]
    simp only [hfirst, List.isEmpty_iff, if_neg hl.1, List.drop_left', String.ofList_toList]
    cases rest with
    | nil => rfl
    | cons c rest =>
      have hc : c ≠ ':' := fun hc => hcolon (by rw [hc]; rfl)
      split
      · next heq => cases heq; exact absurd rfl hc
      · next heq => cases heq; exact absurd rfl hc
      · rfl
  | some q =>
    have hread := leadingQName?_qualified (hq q rfl) hl hr
    simp only [Option.elim, List.append_assoc, List.cons_append, List.nil_append]
    rw [hread]
    simp [Nat.add_assoc, Nat.add_comm 1]

/-- A name that is read as a single token. -/
def IsToken (n : QName) : Prop :=
  leadingQName? n.render.toList = some (testOf n, n.render.length)

instance {n : QName} : Decidable (IsToken n) :=
  inferInstanceAs (Decidable (leadingQName? n.render.toList = some (testOf n, n.render.length)))

/-- The parts of a name are those of the test for it. -/
theorem isQName_of_testOf {n : QName} {q : Option (List Char)} {l : List Char}
    (h : testOf n = .name (q.map String.ofList) (String.ofList l)) (hq : ∀ p ∈ q, IsName p)
    (hl : IsName l) : IsQName n := by
  rw [testOf, NameTest.name.injEq] at h
  obtain ⟨hqualifier, hlocal⟩ := h
  constructor
  · rw [hlocal, String.toList_ofList]
    exact hl
  · intro p hp
    rw [hqualifier] at hp
    obtain ⟨word, hword, rfl⟩ := Option.map_eq_some_iff.1 hp
    rw [String.toList_ofList]
    exact hq word hword

/-- **A name is read as a single token exactly if its parts are names.** -/
theorem isQName_iff {n : QName} : IsQName n ↔ IsToken n := by
  rw [IsToken]
  constructor
  · intro h
    have := leadingQName?_append h endsName_nil (by simp)
    rwa [List.append_nil] at this
  · intro h
    rw [leadingQName?] at h
    simp only [List.isEmpty_iff] at h
    split at h
    · cases h
    · next hne =>
      have hfirst := isName_leadingName hne
      -- whether or not a colon follows: what is read has no qualifier
      have hplain : ∀ {k : Nat}, some (NameTest.name none (String.ofList
          (leadingName n.render.toList)), k) = some (testOf n, n.render.length) → IsQName n := by
        intro k heq
        have htest := (Prod.mk.inj (Option.some.inj heq)).1.symm
        refine @isQName_of_testOf n none _ htest (fun p hp => ?_) hfirst
        cases hp
      split at h
      · cases h
      · next rest _ hdrop =>
        split at h
        · exact hplain h
        · next hsecond =>
          have htest := (Prod.mk.inj (Option.some.inj h)).1.symm
          refine @isQName_of_testOf n (some _) _ htest (fun p hp => ?_)
            (isName_leadingName hsecond)
          cases hp
          exact hfirst
      · exact hplain h

/-! ## Tokens -/

/-- **The tokens of a text** wherever it stands, `behindOperand` telling what is before it. -/
def Scans (behindOperand : Bool) (cs : List Char) (ts : List Token) : Prop :=
  ∀ offset, ∃ os, tokensFrom behindOperand 0 offset cs = .ok os ∧ os.map (·.2) = ts

theorem scans_nil (behindOperand : Bool) : Scans behindOperand [] [] :=
  fun _ => ⟨[], rfl, rfl⟩

theorem tokensFrom_skip (behindOperand : Bool) (word rest : List Char) (offset : Nat) :
    ∃ offset', tokensFrom behindOperand word.length offset (word ++ rest) =
      tokensFrom behindOperand 0 offset' rest := by
  induction word generalizing offset with
  | nil => exact ⟨offset, rfl⟩
  | cons c word ih => exact ih (offset + c.utf8Size)

/-- What starts a name is scanned as one. -/
theorem scan_of_isNameStart {behindOperand : Bool} {c : Char} {cs : List Char} {test : NameTest}
    {n : Nat} (h : isNameStart c) (hname : leadingQName? (c :: cs) = some (test, n)) :
    Token.scan behindOperand c cs = .ok (nameToken behindOperand test, n) := by
  have hc := not_mem_signs h
  have hdigit : c.isDigit = false := by
    rw [Bool.eq_false_iff]
    intro hd
    exact hc (mem_signs hd)
  have hdot : c ≠ '.' := by
    rintro rfl
    exact hc (by decide)
  unfold Token.scan
  -- all cases but the last one start with a sign
  split <;> first | exact absurd (by decide) hc | skip
  simp only [hdigit, hdot, Bool.false_or, decide_false, Bool.false_and, Bool.false_eq_true, if_false,
    hname]

end XmlAudit.XPath
