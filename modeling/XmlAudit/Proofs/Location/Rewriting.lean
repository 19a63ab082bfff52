import XmlAudit.Proofs.Location.Positions
import XmlAudit.Proofs.XPath.IndexedPath

/-!
# Rewriting paths of names and positions

* `Place`: the names and positions on the way to a node.
* `shift_chars`: positions are counted up.
* `inDefault`: a name as it is looked up where a default namespace is declared.
* `translate_chars`: the path expression made of a place is one for its names and positions.
* `unscannable_prefixed`: it is none where a name that has a prefix gets another one.
-/

namespace XmlAudit.Location

open Text (replaceFrom replaceFrom_plain replaceFrom_taken)
open Xml (QName Namespaces)
open XPath (IndexedPath Ending IsName IsQName NameTest Token ScansWord Unscannable isName_iff
  isName_of_isLower isNameStart leadingName leadingQName? tokensFrom stepChars stepWord testOf
  render_testOf pathSigns not_mem_signs endsName_sign scansTo_step scansWord_qualified
  scansWord_slash)

/-! ## Places -/

/-- The names and positions on the way to a node, and what it is itself. -/
structure Place where
  steps : List (QName × Nat)
  ending : Ending

/-- The step that a name and a position are. -/
def nameStep (s : QName × Nat) : NameTest × Nat := (testOf s.1, s.2)

namespace Place

/-- The path that a place spells. -/
def path (p : Place) : IndexedPath := ⟨p.steps.map nameStep, p.ending⟩

/-- The place as written. -/
def chars (p : Place) : List Char := p.path.chars

/-- The names of a place are single tokens. -/
def Legible (p : Place) : Prop := (∀ s ∈ p.steps, IsQName s.1) ∧ p.ending.Legible

theorem Legible.path {p : Place} (h : p.Legible) : p.path.Legible := by
  refine ⟨fun s hs => ?_, h.2⟩
  obtain ⟨t, ht, rfl⟩ := List.mem_map.1 hs
  exact h.1 t ht

/-- The way starts with its first step. -/
theorem chars_cons (s : QName × Nat) (steps : List (QName × Nat)) (ending : Ending) :
    chars ⟨s :: steps, ending⟩ = stepChars (nameStep s) ++ chars ⟨steps, ending⟩ := by
  simp [chars, path, IndexedPath.chars]

end Place

theorem stepChars_nameStep (s : QName × Nat) : stepChars (nameStep s) =
    '/' :: (s.1.render.toList ++ '[' :: (Nat.toDigits 10 s.2 ++ [']'])) := by
  rw [stepChars, stepWord, nameStep, render_testOf]

/-! ## Names -/

/-- Signs are no part of a written name. -/
theorem not_mem_render {n : QName} (h : IsQName n) {c : Char} (hc : c ∈ n.render.toList) :
    c ≠ '[' ∧ c ≠ '/' := by
  have hchar : ∀ {cs : List Char}, IsName cs → c ∈ cs → c ≠ '[' ∧ c ≠ '/' := by
    intro cs hcs hc
    constructor
    · rintro rfl
      exact hcs.not_mem (by decide) hc
    · rintro rfl
      exact hcs.not_mem (by decide) hc
  obtain ⟨q, l⟩ := n
  rw [XPath.toList_render] at hc
  cases q with
  | none => exact hchar h.1 hc
  | some q =>
    simp only [Option.elim, List.append_assoc, List.mem_append, List.mem_cons, List.not_mem_nil,
      or_false] at hc
    rcases hc with hc | rfl | hc
    · exact hchar (h.2 q rfl) hc
    · decide
    · exact hchar h.1 hc

/-- Signs are no part of the words of an ending. -/
theorem not_mem_words {ending : Ending} (h : ending.Legible) {word : List Char}
    (hword : word ∈ ending.words) {c : Char} (hc : c ∈ word) : c ≠ '[' ∧ c ≠ '/' := by
  obtain ⟨n, rfl, rfl⟩ | ⟨rfl, rfl⟩ := Ending.mem_words.1 hword
  · rcases List.mem_cons.1 hc with rfl | hc
    · decide
    · exact not_mem_render h hc
  · have hall : ("text".toList ++ ['(', ')']).all fun c => c ≠ '[' && c ≠ '/' := by decide
    simpa using List.all_eq_true.1 hall c hc

/-! ## Positions -/

/-- A position in brackets is counted up. -/
theorem shift_position {n : Nat} {rest : List Char} (h : n + 1 < 2 ^ 64) :
    replaceFrom shiftRule 0 ('[' :: (Nat.toDigits 10 n ++ [']'] ++ rest)) =
      '[' :: (Nat.toDigits 10 (n + 1) ++ [']']) ++ replaceFrom shiftRule 0 rest := by
  have hposition := isPosition_toDigits (Nat.lt_of_succ_lt h)
  rw [replaceFrom_taken (shiftRule_position hposition rest), Number.Decimal.ofDigits_toDigits,
    nextNumber, if_pos h]

/-- **Positions are counted up** in a child step. -/
theorem shift_step {s : QName × Nat} {rest : List Char} (hs : IsQName s.1) (h : s.2 + 1 < 2 ^ 64) :
    replaceFrom shiftRule 0 (stepChars (nameStep s) ++ rest) =
      stepChars (nameStep (s.1, s.2 + 1)) ++ replaceFrom shiftRule 0 rest := by
  have hplain : ∀ c ∈ '/' :: s.1.render.toList, ∀ cs, shiftRule (c :: cs) = none := by
    intro c hc cs
    refine shiftRule_eq_none ?_ cs
    rcases List.mem_cons.1 hc with rfl | hc
    · decide
    · exact (not_mem_render hs hc).1
  have hchars : stepChars (nameStep s) ++ rest =
      ('/' :: s.1.render.toList) ++ '[' :: (Nat.toDigits 10 s.2 ++ [']'] ++ rest) := by
    simp [stepChars_nameStep]
  rw [hchars, replaceFrom_plain hplain, shift_position h]
  simp [stepChars_nameStep]

theorem shift_ending {ending : Ending} (h : ending.Legible) :
    replaceFrom shiftRule 0 ending.chars = ending.chars := by
  have hplain : ∀ c ∈ ending.chars, ∀ cs, shiftRule (c :: cs) = none := by
    intro c hc cs
    refine shiftRule_eq_none ?_ cs
    obtain ⟨word, hword, hc⟩ := List.mem_flatMap.1 hc
    rcases List.mem_cons.1 hc with rfl | hc
    · decide
    · exact (not_mem_words h hword hc).1
  have hpass := @replaceFrom_plain shiftRule _ [] hplain
  rwa [List.append_nil, replaceFrom, List.append_nil] at hpass

/-- A place with every position counted up. -/
def shifted (p : Place) : Place := ⟨p.steps.map fun s => (s.1, s.2 + 1), p.ending⟩

/-- **All positions of a place are counted up.** -/
theorem shift_chars {p : Place} (h : p.Legible) (hpos : ∀ s ∈ p.steps, s.2 + 1 < 2 ^ 64) :
    replaceFrom shiftRule 0 p.chars = (shifted p).chars := by
  obtain ⟨steps, ending⟩ := p
  obtain ⟨hsteps, hending⟩ := h
  rw [shifted]
  induction steps with
  | nil => exact shift_ending hending
  | cons s steps ih =>
    obtain ⟨hs, hsteps⟩ := List.forall_mem_cons.1 hsteps
    obtain ⟨hp, hpos⟩ := List.forall_mem_cons.1 hpos
    rw [Place.chars_cons, shift_step hs hp, List.map_cons, Place.chars_cons]
    exact congrArg _ (ih hpos hsteps hending)

/-! ## Prefixes -/

/-- Whether the local part of a name starts as the name of a step does. -/
def startsStep (n : QName) : Bool := n.localPart.toList.head?.any isStepChar

/-- A name as it is looked up where a default namespace is declared: without a qualifier it gets the
prefix of that namespace, if it starts as the name of a step does. -/
def inDefault (n : QName) : QName :=
  if n.qualifier.isNone && startsStep n then ⟨some Namespaces.defaultPrefix, n.localPart⟩ else n

/-- Whether the qualifier of a name is taken for the name of a step, because it starts as one but
does not go on so. -/
def isMistaken (n : QName) : Bool :=
  n.qualifier.any fun q => q.toList.head?.any isStepChar && !q.toList.all isStepChar

/-- No sign of a path is a character of a step's name. -/
theorem isStepChar_pathSigns {c : Char} (h : c ∈ pathSigns) : isStepChar c = false := by
  have hnone : pathSigns.all fun d => d.toNat < 128 && !(d.isAlphanum || d == '_' || d = '-') := by decide
  have hsign := List.all_eq_true.1 hnone c h
  rw [Bool.and_eq_true, decide_eq_true_eq, Bool.not_eq_true'] at hsign
  rw [isStepChar, Text.isWordChar_of_lt hsign.1, hsign.2]

theorem defaultPrefixRule_eq_none {c : Char} (hc : c ≠ '/') (cs : List Char) :
    defaultPrefixRule (c :: cs) = none := by
  unfold defaultPrefixRule
  split
  · next heq =>
    cases heq
    exact absurd rfl hc
  · rfl

/-- A slash before nothing that a step could be named gets no prefix. -/
theorem defaultPrefixRule_slash {cs : List Char} (h : cs.takeWhile isStepChar = []) :
    defaultPrefixRule ('/' :: cs) = none := by
  rw [defaultPrefixRule]
  split
  · rfl
  · rfl
  · rw [h, List.isEmpty_nil, if_pos rfl]

theorem takeWhile_stepChars {q rest : List Char} {c : Char} (hq : ∀ c ∈ q, isStepChar c)
    (hc : isStepChar c = false) : (q ++ c :: rest).takeWhile isStepChar = q ∧
      (q ++ c :: rest).dropWhile isStepChar = c :: rest := by
  have hneg : ¬isStepChar c = true := by simp [hc]
  rw [List.takeWhile_append_of_pos hq, List.dropWhile_append_of_pos hq,
    List.takeWhile_cons_of_neg hneg, List.dropWhile_cons_of_neg hneg, List.append_nil]
  exact ⟨rfl, rfl⟩

/-- Where a name stops being the name of a step, neither a colon nor a parenthesis follows. -/
theorem dropWhile_stepChars {l left : List Char} {c : Char} (hl : IsName l)
    (hdrop : l.dropWhile isStepChar = c :: left) : isStepChar c = false ∧ c ≠ ':' ∧ c ≠ '(' := by
  have hstep : isStepChar c = false := by
    have h := List.head_dropWhile_not isStepChar (by rw [hdrop]; exact List.cons_ne_nil c left)
    simpa only [hdrop, List.head_cons] using h
  have hmem : c ∈ l := by
    refine (List.dropWhile_sublist isStepChar).subset ?_
    rw [hdrop]
    exact List.mem_cons_self
  refine ⟨hstep, ?_, ?_⟩
  · rintro rfl
    exact hl.not_mem (by decide) hmem
  · rintro rfl
    exact hl.not_mem (by decide) hmem

/-- What could be the name of a step gets the prefix, unless a colon or a parenthesis follows. -/
theorem defaultPrefixRule_taken {word later : List Char} {c : Char} (hne : word ≠ [])
    (hword : ∀ c ∈ word, isStepChar c) (hc : isStepChar c = false ∧ c ≠ ':' ∧ c ≠ '(') :
    defaultPrefixRule ('/' :: (word ++ c :: later)) =
      some ('/' :: Namespaces.defaultPrefix.toList ++ ':' :: word, word.length + 1) := by
  obtain ⟨hstep, hcolon, hparen⟩ := hc
  obtain ⟨htake, hdrop⟩ := @takeWhile_stepChars word later c hword hstep
  rw [defaultPrefixRule, htake, hdrop]
  split
  · next heq => cases heq; exact absurd rfl hcolon
  · next heq => cases heq; exact absurd rfl hparen
  · rw [if_neg (by simpa using hne)]

/-- The prefix is put before the part of a name that could be the name of a step. -/
theorem prefix_word {l later : List Char} {c : Char} (hl : IsName l)
    (hne : l.takeWhile isStepChar ≠ [])
    (hc : l.dropWhile isStepChar = [] → isStepChar c = false ∧ c ≠ ':' ∧ c ≠ '(') :
    replaceFrom defaultPrefixRule 0 ('/' :: (l ++ c :: later)) =
      '/' :: (Namespaces.defaultPrefix.toList ++ ':' :: (l ++
        replaceFrom defaultPrefixRule 0 (c :: later))) := by
  have htaken : ∀ c ∈ l.takeWhile isStepChar, isStepChar c := fun c hc => List.mem_takeWhile_imp hc
  -- the rule takes the front of the name that a step may have, and the rest passes through
  have hrule : defaultPrefixRule ('/' :: (l.takeWhile isStepChar ++
      (l.dropWhile isStepChar ++ c :: later))) = some ('/' :: Namespaces.defaultPrefix.toList ++
        ':' :: l.takeWhile isStepChar, (l.takeWhile isStepChar).length + 1) := by
    cases hdrop : l.dropWhile isStepChar with
    | nil => exact defaultPrefixRule_taken hne htaken (hc hdrop)
    | cons b left => exact defaultPrefixRule_taken hne htaken (dropWhile_stepChars hl hdrop)
  have hleft : ∀ b ∈ l.dropWhile isStepChar, ∀ cs, defaultPrefixRule (b :: cs) = none := by
    intro b hb
    refine defaultPrefixRule_eq_none ?_
    rintro rfl
    exact hl.not_mem (by decide) ((List.dropWhile_sublist isStepChar).subset hb)
  have hsplit : l ++ c :: later =
      l.takeWhile isStepChar ++ (l.dropWhile isStepChar ++ c :: later) := by
    rw [← List.append_assoc, List.takeWhile_append_dropWhile]
  have hagain : l.takeWhile isStepChar ++ (l.dropWhile isStepChar ++
      replaceFrom defaultPrefixRule 0 (c :: later)) =
        l ++ replaceFrom defaultPrefixRule 0 (c :: later) := by
    rw [← List.append_assoc, List.takeWhile_append_dropWhile]
  rw [hsplit, replaceFrom_taken hrule, replaceFrom_plain hleft, ← hagain]
  simp only [List.cons_append, List.append_assoc]

theorem startsStep_iff {n : QName} :
    startsStep n ↔ n.localPart.toList.takeWhile isStepChar ≠ [] := by
  rw [startsStep]
  cases n.localPart.toList with
  | nil => simp
  | cons c l =>
    rw [List.takeWhile_cons]
    split <;> simp_all

/-- A qualifier that is not mistaken is no name of a step that gets the prefix. -/
theorem defaultPrefixRule_qualified {q : String} {l rest : List Char} (hq : IsName q.toList)
    (h : isMistaken ⟨some q, String.ofList l⟩ = false) :
    defaultPrefixRule ('/' :: (q.toList ++ ':' :: rest)) = none := by
  have hcolon : isStepChar ':' = false := isStepChar_pathSigns (by decide)
  by_cases hall : ∀ c ∈ q.toList, isStepChar c
  · obtain ⟨-, hdrop⟩ := @takeWhile_stepChars q.toList rest ':' hall hcolon
    rw [defaultPrefixRule, hdrop]
    rfl
  · refine defaultPrefixRule_slash ?_
    obtain ⟨c, word, hword, -, -⟩ := isName_iff.1 hq
    have hnot : q.toList.all isStepChar = false := by
      rw [Bool.eq_false_iff, Ne, List.all_eq_true]
      exact hall
    have hc : isStepChar c = false := by
      have hhead : (q.toList.head?.any isStepChar && !q.toList.all isStepChar) = false := h
      rw [hnot, Bool.not_false, Bool.and_true, hword] at hhead
      exact hhead
    rw [hword, List.cons_append, List.takeWhile_cons_of_neg (by simp [hc])]

/-- **An unprefixed name behind a slash gets the prefix,** a prefixed one does not. -/
theorem prefix_name {n : QName} {rest : List Char} (hn : IsQName n) (hq : isMistaken n = false) :
    replaceFrom defaultPrefixRule 0 ('/' :: (n.render.toList ++ '[' :: rest)) =
      '/' :: ((inDefault n).render.toList ++ replaceFrom defaultPrefixRule 0 ('[' :: rest)) := by
  have hplain : ∀ c ∈ n.render.toList, ∀ cs, defaultPrefixRule (c :: cs) = none := by
    intro c hc
    exact defaultPrefixRule_eq_none (not_mem_render hn hc).2
  -- where the rule does not apply behind the slash, it does not within the name
  have hkept : defaultPrefixRule ('/' :: (n.render.toList ++ '[' :: rest)) = none →
      inDefault n = n → replaceFrom defaultPrefixRule 0 ('/' :: (n.render.toList ++ '[' :: rest)) =
        '/' :: ((inDefault n).render.toList ++ replaceFrom defaultPrefixRule 0 ('[' :: rest)) := by
    intro hrule hsame
    rw [replaceFrom, hrule, hsame]
    simp only
    rw [replaceFrom_plain hplain]
  obtain ⟨q, l⟩ := n
  rw [XPath.toList_render] at hplain hkept ⊢
  cases q with
  | some q =>
    refine hkept ?_ rfl
    have hqualifier : IsName q.toList := hn.2 q rfl
    simp only [Option.elim, List.append_assoc, List.cons_append, List.nil_append]
    refine defaultPrefixRule_qualified (l := l.toList) hqualifier ?_
    rwa [String.ofList_toList]
  | none =>
    simp only [Option.elim, List.nil_append] at hplain hkept ⊢
    have hl : IsName l.toList := hn.1
    by_cases hstarts : startsStep ⟨none, l⟩
    · have hne := startsStep_iff.1 hstarts
      have hbracket : isStepChar '[' = false ∧ '[' ≠ ':' ∧ '[' ≠ '(' :=
        ⟨isStepChar_pathSigns (by decide), by decide, by decide⟩
      have hname : (inDefault ⟨none, l⟩).render.toList =
          Namespaces.defaultPrefix.toList ++ ':' :: l.toList := by
        rw [inDefault, hstarts, XPath.toList_render]
        simp
      rw [prefix_word hl hne fun _ => hbracket, hname]
      simp only [List.cons_append, List.append_assoc]
    · have hempty : l.toList.takeWhile isStepChar = [] := by
        by_contra hne
        exact hstarts (startsStep_iff.2 hne)
      refine hkept (defaultPrefixRule_slash ?_) ?_
      · obtain ⟨c, word, hword, -, -⟩ := isName_iff.1 hl
        rw [hword, List.takeWhile_cons] at hempty
        rw [hword, List.cons_append, List.takeWhile_cons]
        split
        · next hc => rw [if_pos hc] at hempty; cases hempty
        · rfl
      · rw [inDefault, Bool.eq_false_iff.2 hstarts]
        rfl

/-- A child step behind which the rest of a path follows. -/
theorem prefix_step {s : QName × Nat} {rest : List Char} (hs : IsQName s.1)
    (hq : isMistaken s.1 = false) :
    replaceFrom defaultPrefixRule 0 (stepChars (nameStep s) ++ rest) =
      stepChars (nameStep (inDefault s.1, s.2)) ++ replaceFrom defaultPrefixRule 0 rest := by
  have hplain : ∀ c ∈ '[' :: (Nat.toDigits 10 s.2 ++ [']']), ∀ cs,
      defaultPrefixRule (c :: cs) = none := by
    intro c hc
    refine defaultPrefixRule_eq_none ?_
    simp only [List.mem_cons, List.mem_append, List.not_mem_nil, or_false] at hc
    rcases hc with rfl | hc | rfl
    · decide
    · rintro rfl
      exact absurd (Nat.isDigit_of_mem_toDigits (by decide) (Nat.le_refl 10) hc) (by decide)
    · decide
  have hposition := @replaceFrom_plain defaultPrefixRule _ rest hplain
  have hchars : stepChars (nameStep s) ++ rest =
      '/' :: (s.1.render.toList ++ '[' :: (Nat.toDigits 10 s.2 ++ [']'] ++ rest)) := by
    simp [stepChars_nameStep]
  rw [hchars, prefix_name hs hq]
  rw [List.cons_append] at hposition
  rw [hposition]
  simp [stepChars_nameStep]

theorem prefix_ending {ending : Ending} (h : ending.Legible) :
    replaceFrom defaultPrefixRule 0 ending.chars = ending.chars := by
  -- an ending is no name of a step: it starts with another sign or has parentheses behind it
  have hword : ∀ word ∈ ending.words, defaultPrefixRule ('/' :: word) = none := by
    intro word hword
    obtain ⟨n, rfl, rfl⟩ | ⟨rfl, rfl⟩ := Ending.mem_words.1 hword
    · refine defaultPrefixRule_slash ?_
      rw [List.takeWhile_cons_of_neg]
      exact Bool.eq_false_iff.1 (isStepChar_pathSigns (by decide))
    · decide +kernel
  have hpass : ∀ word ∈ ending.words,
      replaceFrom defaultPrefixRule 0 ('/' :: word) = '/' :: word := by
    intro word hmem
    have hplain := @replaceFrom_plain defaultPrefixRule word [] fun c hc =>
      defaultPrefixRule_eq_none (not_mem_words h hmem hc).2
    rw [List.append_nil, replaceFrom, List.append_nil] at hplain
    rw [replaceFrom, hword word hmem]
    simp only
    rw [hplain]
  cases ending with
  | element => rfl
  | attr n => simpa [Ending.chars, Ending.words] using hpass
  | text => simpa [Ending.chars, Ending.words] using hpass

/-- A place with the prefix of the default namespace on every name that gets it. -/
def prefixed (p : Place) : Place := ⟨p.steps.map fun s => (inDefault s.1, s.2), p.ending⟩

/-- **The prefix is put on the unprefixed names of a place.** -/
theorem prefix_chars {p : Place} (h : p.Legible) (hq : ∀ s ∈ p.steps, isMistaken s.1 = false) :
    replaceFrom defaultPrefixRule 0 p.chars = (prefixed p).chars := by
  obtain ⟨steps, ending⟩ := p
  obtain ⟨hsteps, hending⟩ := h
  rw [prefixed]
  induction steps with
  | nil => exact prefix_ending hending
  | cons s steps ih =>
    obtain ⟨hs, hsteps⟩ := List.forall_mem_cons.1 hsteps
    obtain ⟨hsq, hq⟩ := List.forall_mem_cons.1 hq
    rw [Place.chars_cons, prefix_step hs hsq, List.map_cons, Place.chars_cons]
    exact congrArg _ (ih hq hsteps hending)

/-! ## Mistaken qualifiers -/

theorem isName_defaultPrefix : IsName Namespaces.defaultPrefix.toList :=
  isName_of_isLower (by decide) (by decide)

theorem isQName_inDefault {n : QName} (h : IsQName n) : IsQName (inDefault n) := by
  rw [inDefault]
  split
  · refine ⟨h.1, fun q hq => ?_⟩
    cases hq
    exact isName_defaultPrefix
  · exact h

/-- No token starts with a single colon. -/
theorem unscannable_colon {behindOperand : Bool} {c : Char} {rest : List Char} (hc : c ≠ ':') :
    Unscannable behindOperand (':' :: c :: rest) := by
  have hscan : Token.scan behindOperand ':' (c :: rest) = .error (.unexpectedCharacter ':') := by
    have hname : leadingQName? (':' :: c :: rest) = none := by
      have hstart : isNameStart ':' = false :=
        Bool.eq_false_iff.2 fun hstart => not_mem_signs hstart (by decide)
      simp [leadingQName?, leadingName, hstart]
    unfold Token.scan
    split <;> simp_all
  have hblank : Text.isBlank ':' = false := by decide
  intro offset
  refine ⟨⟨offset, .unexpectedCharacter ':'⟩, ?_⟩
  rw [tokensFrom, hblank, hscan]
  rfl

/-- **A name whose qualifier is mistaken for the name of a step** is none any more: the qualifier
gets a qualifier. -/
theorem unscannable_mistaken {behindOperand : Bool} {s : QName × Nat} {rest : List Char}
    (hs : IsQName s.1) (h : isMistaken s.1) :
    Unscannable behindOperand (replaceFrom defaultPrefixRule 0 (stepChars (nameStep s) ++ rest)) := by
  obtain ⟨⟨q, l⟩, k⟩ := s
  obtain ⟨q, rfl, hq⟩ := (Option.any_eq_true _ _).1 h
  rw [Bool.and_eq_true, Bool.not_eq_true'] at hq
  obtain ⟨hhead, hall⟩ := hq
  have hqualifier : IsName q.toList := hs.2 q rfl
  obtain ⟨c, word, hword, -, -⟩ := isName_iff.1 hqualifier
  have hne : q.toList.takeWhile isStepChar ≠ [] := by
    rw [hword] at hhead ⊢
    have hc : isStepChar c = true := hhead
    rw [List.takeWhile_cons_of_pos hc]
    exact List.cons_ne_nil _ _
  have hleft : q.toList.dropWhile isStepChar ≠ [] := by
    intro hnil
    rw [List.dropWhile_eq_nil_iff, ← List.all_eq_true, hall] at hnil
    cases hnil
  -- behind the two qualifiers a colon is left, and a name that the rule leaves alone
  obtain ⟨d, tail, hlocal, hd, -⟩ := isName_iff.1 hs.1
  have hcolon : d ≠ ':' := by
    rintro rfl
    exact not_mem_signs hd (by decide)
  have hslash : d ≠ '/' := by
    rintro rfl
    exact not_mem_signs hd (by decide)
  have hchars : stepChars (nameStep (⟨some q, l⟩, k)) ++ rest = '/' :: (q.toList ++ ':' ::
      (d :: (tail ++ '[' :: (Nat.toDigits 10 k ++ ']' :: rest)))) := by
    have hl : l.toList = d :: tail := hlocal
    simp [stepChars_nameStep, XPath.toList_render, hl]
  have hword := @prefix_word q.toList (d :: (tail ++ '[' :: (Nat.toDigits 10 k ++ ']' :: rest))) ':'
    hqualifier hne fun hnil => absurd hnil hleft
  rw [hchars, hword, replaceFrom, defaultPrefixRule_eq_none (by decide)]
  simp only
  rw [replaceFrom, defaultPrefixRule_eq_none hslash]
  simp only
  generalize replaceFrom defaultPrefixRule 0 _ = later
  have hone := scansWord_qualified isName_defaultPrefix hqualifier
    (@endsName_sign ':' (by decide) (d :: later))
  have hfirst : ScansWord behindOperand ['/']
      ((Namespaces.defaultPrefix.toList ++ ':' :: q.toList) ++ ':' :: d :: later) .slash :=
    scansWord_slash (by simp [Namespaces.defaultPrefix])
  have hscan := (hfirst.scansTo.trans hone.scansTo).unscannable (unscannable_colon hcolon)
  simpa using hscan

/-- **A place with such a name on the way** is no path expression any more. -/
theorem unscannable_prefixed {p : Place} (h : p.Legible) (hq : ∃ s ∈ p.steps, isMistaken s.1)
    (behindOperand : Bool) : Unscannable behindOperand (replaceFrom defaultPrefixRule 0 p.chars) := by
  obtain ⟨steps, ending⟩ := p
  obtain ⟨hsteps, hending⟩ := h
  induction steps generalizing behindOperand with
  | nil =>
    obtain ⟨s, hs, -⟩ := hq
    cases hs
  | cons s steps ih =>
    obtain ⟨hs, hsteps⟩ := List.forall_mem_cons.1 hsteps
    rw [Place.chars_cons]
    -- the first such name counts, and those before it are scanned
    by_cases hmistaken : isMistaken s.1 = true
    · exact unscannable_mistaken hs hmistaken
    · have hlater : ∃ t ∈ steps, isMistaken t.1 := by
        obtain ⟨t, ht, hq⟩ := hq
        rcases List.mem_cons.1 ht with rfl | ht
        · exact absurd hq hmistaken
        · exact ⟨t, ht, hq⟩
      have hdefault : (nameStep (inDefault s.1, s.2)).1.Whole := isQName_inDefault hs
      rw [prefix_step hs (Bool.eq_false_iff.2 hmistaken)]
      exact (scansTo_step hdefault _).unscannable (ih true hlater hsteps hending)

/-! ## Translations -/

/-- A place as it is looked up. -/
def lookup (hasDefault : Bool) (p : Place) : Place :=
  if hasDefault then prefixed (shifted p) else shifted p

theorem legible_shifted {p : Place} (h : p.Legible) : (shifted p).Legible := by
  refine ⟨fun s hs => ?_, h.2⟩
  obtain ⟨t, ht, rfl⟩ := List.mem_map.1 hs
  exact h.1 t ht

theorem legible_lookup {p : Place} (h : p.Legible) (hasDefault : Bool) :
    (lookup hasDefault p).Legible := by
  have hshifted := legible_shifted h
  rw [lookup]
  split
  · refine ⟨fun s hs => ?_, hshifted.2⟩
    obtain ⟨t, ht, rfl⟩ := List.mem_map.1 hs
    exact isQName_inDefault (hshifted.1 t ht)
  · exact hshifted

/-- A place with its positions counted up. -/
theorem shiftPositions_chars {p : Place} (h : p.Legible)
    (hpos : ∀ s ∈ p.steps, s.2 + 1 < 2 ^ 64) :
    shiftPositions (String.ofList p.chars) = String.ofList (shifted p).chars := by
  rw [shiftPositions, Text.replaceMatches, String.toList_ofList, shift_chars h hpos]

/-- **The path expression made of a place** spells a place again. -/
theorem translate_chars {k : Locator} {p : Place} (hk : k.engine) (h : p.Legible)
    (hpos : ∀ s ∈ p.steps, s.2 + 1 < 2 ^ 64)
    (hq : k.hasDefaultNamespace → ∀ s ∈ p.steps, isMistaken s.1 = false) :
    k.translate (String.ofList p.chars) true =
      String.ofList (lookup k.hasDefaultNamespace p).chars := by
  rw [Locator.translate, if_pos hk, shiftPositions_chars h hpos, lookup, Bool.true_and]
  cases hdefault : k.hasDefaultNamespace with
  | false => rfl
  | true =>
    have hqualifiers : ∀ s ∈ (shifted p).steps, isMistaken s.1 = false := by
      intro s hs
      obtain ⟨t, ht, rfl⟩ := List.mem_map.1 hs
      exact hq hdefault t ht
    simp only [if_true]
    rw [Text.replaceMatches, String.toList_ofList, prefix_chars (legible_shifted h) hqualifiers]

/-- What a place is translated to is no path expression where a qualifier on the way is mistaken. -/
theorem unscannable_translate {k : Locator} {p : Place} (hk : k.engine)
    (hdefault : k.hasDefaultNamespace) (h : p.Legible) (hpos : ∀ s ∈ p.steps, s.2 + 1 < 2 ^ 64)
    (hq : ∃ s ∈ p.steps, isMistaken s.1) :
    Unscannable false (k.translate (String.ofList p.chars) true).toList := by
  have hmistaken : ∃ s ∈ (shifted p).steps, isMistaken s.1 := by
    obtain ⟨s, hs, hq⟩ := hq
    exact ⟨_, List.mem_map_of_mem hs, hq⟩
  rw [Locator.translate, if_pos hk, shiftPositions_chars h hpos, hdefault, Bool.and_self, if_pos rfl,
    Text.replaceMatches, String.toList_ofList, String.toList_ofList]
  exact unscannable_prefixed (legible_shifted h) hmistaken false

end XmlAudit.Location
