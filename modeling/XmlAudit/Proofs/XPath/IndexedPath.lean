import XmlAudit.Proofs.XPath.Spelling

/-!
# Paths of names and positions

* `IndexedPath`: child steps with a position each, and what stands behind them.
* `IndexedPath.scans`: the tokens of such a path.
* `readMoreSteps_tokens`: the steps that are read from these tokens.
* `IndexedPath.parse_eq`: the expression that such a path spells.
-/

namespace XmlAudit.XPath

open Xml (QName)

/-- What stands behind the child steps of a path: nothing, the step of an attribute, or one to
text. -/
inductive Ending where
  | element
  | attr (name : QName)
  | text

/-- Child steps from the root, each with a position, and what stands behind them. -/
structure IndexedPath where
  steps : List (NameTest × Nat)
  ending : Ending

/-! ## Characters -/

/-- A child step as written, without the slash before it. -/
def stepWord (s : NameTest × Nat) : List Char :=
  s.1.render.toList ++ '[' :: (Nat.toDigits 10 s.2 ++ [']'])

/-- A child step as written. -/
def stepChars (s : NameTest × Nat) : List Char := '/' :: stepWord s

/-- An ending as written, without the slash before it. -/
def Ending.words : Ending → List (List Char)
  | element => []
  | attr n => ['@' :: n.render.toList]
  | text => ["text".toList ++ ['(', ')']]

theorem Ending.mem_words {ending : Ending} {word : List Char} : word ∈ ending.words ↔
    (∃ n, ending = attr n ∧ word = '@' :: n.render.toList) ∨
      ending = text ∧ word = "text".toList ++ ['(', ')'] := by
  cases ending <;> simp [words]

/-- An ending as written. -/
def Ending.chars (ending : Ending) : List Char := ending.words.flatMap ('/' :: ·)

/-- The names of an ending are single tokens. -/
def Ending.Legible : Ending → Prop
  | attr n => IsQName n
  | _ => True

namespace IndexedPath

/-- The path as written. -/
def chars (p : IndexedPath) : List Char := p.steps.flatMap stepChars ++ p.ending.chars

/-- The names of a path are single tokens. -/
def Legible (p : IndexedPath) : Prop := (∀ s ∈ p.steps, s.1.Whole) ∧ p.ending.Legible

end IndexedPath

/-! ## Tokens -/

/-- The tokens of a child step. -/
def stepTokens (s : NameTest × Nat) : List Token :=
  [.slash, .name s.1, .openBracket,
    .number (Number.Decimal.read false (Nat.toDigits 10 s.2)), .closeBracket]

/-- The tokens of an ending. -/
def Ending.tokens : Ending → List Token
  | element => []
  | attr n => [.slash, .atSign, .name (testOf n)]
  | text => [.slash, .name (.name none "text"), .openParen, .closeParen]

/-- The tokens of a path. -/
def IndexedPath.tokens (p : IndexedPath) : List Token :=
  p.steps.flatMap stepTokens ++ p.ending.tokens

/-- A name test starts with a letter or a star. -/
theorem NameTest.Whole.head?_ne_slash {test : NameTest} (h : test.Whole) (rest : List Char) :
    (test.render.toList ++ rest).head? ≠ some '/' := by
  by_cases hn : test.Named
  · obtain ⟨c, tail, hcs, hc⟩ := hn.toList_render h
    rw [hcs]
    intro heq
    cases heq
    exact not_mem_signs hc (by decide)
  · cases test with
    | name | anyIn => exact absurd trivial hn
    | any => simp [render]
    | anywhere l => simp [render]

theorem isDecimal_toDigits (n : Nat) : IsDecimal (Nat.toDigits 10 n) := by
  refine ⟨Nat.toDigits 10 n, [], fun c hc => ?_, ?_, .inl ⟨rfl, rfl⟩⟩
  · rw [List.append_nil] at hc
    exact Nat.isDigit_of_mem_toDigits (by decide) (Nat.le_refl 10) hc
  · rw [List.append_nil]
    exact Nat.toDigits_ne_nil

/-- The word of a sign that is one token by itself. -/
theorem scansWord_sign {behindOperand : Bool} {c : Char} {rest : List Char} {t : Token}
    (hblank : Text.isBlank c = false) (hscan : Token.scan behindOperand c rest = .ok (t, 1)) :
    ScansWord behindOperand [c] rest t :=
  ⟨c, [], rfl, hblank, hscan⟩

/-- **The tokens of a child step**, whatever is behind it. -/
theorem scansTo_step {behindOperand : Bool} {s : NameTest × Nat} (hs : s.1.Whole)
    (rest : List Char) :
    ScansTo behindOperand (stepChars s ++ rest) rest (stepTokens s) true := by
  have hslash := (@scansWord_slash behindOperand _ (hs.head?_ne_slash
    ('[' :: (Nat.toDigits 10 s.2 ++ ']' :: rest)))).scansTo
  have hname := (scansWord_test hs (@endsName_sign '[' (by decide)
    (Nat.toDigits 10 s.2 ++ ']' :: rest)) (by simp)).scansTo
  have hopen := (@scansWord_sign true '[' (Nat.toDigits 10 s.2 ++ ']' :: rest) _ (by decide)
    rfl).scansTo
  have hnumber := (@scansWord_number false _ _ (isDecimal_toDigits s.2)
    (@endsName_sign ']' (by decide) rest)).scansTo
  have hclose := (@scansWord_sign true ']' rest _ (by decide) rfl).scansTo
  have hstep := hslash.trans (hname.trans (hopen.trans (hnumber.trans hclose)))
  have hends : Token.closeBracket.endsOperand = true := rfl
  simpa [stepChars, stepWord, stepTokens, hends] using hstep

theorem render_testOf (n : QName) : (testOf n).render = n.render := by
  obtain ⟨q, l⟩ := n
  cases q <;> rfl

/-- The tokens of an ending. -/
theorem Ending.scans {behindOperand : Bool} {ending : Ending} (h : ending.Legible) :
    Scans behindOperand ending.chars ending.tokens := by
  cases ending with
  | element => exact scans_nil _
  | attr n =>
    have htest : (testOf n).Whole := h
    have hname := (scansWord_test htest endsName_nil (by simp)).scans (scans_nil true)
    have hat := (@scansWord_sign false '@' _ _ (by decide) rfl).scans hname
    have hslash := (@scansWord_slash behindOperand _ (by simp)).scans hat
    simpa [chars, words, tokens, render_testOf] using hslash
  | text =>
    have htest : (NameTest.name none "text").Whole :=
      whole_of_isName (isName_of_isLower (by decide) (by decide))
    have hclose := (@scansWord_sign false ')' _ _ (by decide) rfl).scans (scans_nil true)
    have hopen := (@scansWord_sign true '(' _ _ (by decide) rfl).scans hclose
    have hends : EndsName ['(', ')'] := endsName_sign (by decide) _
    have hname := (scansWord_test htest hends (by simp)).scans hopen
    have hslash := (@scansWord_slash behindOperand _ (htest.head?_ne_slash _)).scans hname
    simpa [chars, words, tokens, NameTest.render] using hslash

namespace IndexedPath

/-- **The tokens of a path of names and positions.** -/
theorem scans {p : IndexedPath} (h : p.Legible) (behindOperand : Bool) :
    Scans behindOperand p.chars p.tokens := by
  obtain ⟨steps, ending⟩ := p
  obtain ⟨hsteps, hending⟩ := h
  rw [chars, tokens]
  induction steps generalizing behindOperand with
  | nil => exact Ending.scans hending
  | cons s steps ih =>
    obtain ⟨hs, hsteps⟩ := List.forall_mem_cons.1 hsteps
    rw [List.flatMap_cons, List.flatMap_cons, List.append_assoc, List.append_assoc]
    exact (scansTo_step hs _).scans (ih true hsteps hending)

end IndexedPath

/-! ## Steps -/

/-- A child step as it is read. -/
def indexedStep (s : NameTest × Nat) : Step :=
  .mk .child (.named s.1) [.number (Number.Decimal.read false (Nat.toDigits 10 s.2))]

/-- The step of an attribute as it is read. -/
def attributeStep (n : QName) : Step := .mk .attributes (.named (testOf n)) []

/-- The step to the text in an element as it is read. -/
def textStep : Step := .mk .child .text []

/-- The steps of an ending as they are read. -/
def Ending.readSteps : Ending → List Step
  | element => []
  | attr n => [attributeStep n]
  | text => [textStep]

/-- The steps of a path as they are read. -/
def IndexedPath.readSteps (p : IndexedPath) : List Step :=
  p.steps.map indexedStep ++ p.ending.readSteps

/-- What can follow an expression in a path: nothing, or the bracket that closes a predicate. -/
def EndsExpr (ts : Tokens) : Prop := ts = [] ∨ ∃ o rest, ts = (o, .closeBracket) :: rest

section

variable {stop fuel : Nat} {ts rest : Tokens} {e : Expr}

theorem binary?_closeBracket : ∀ level, binary? level .closeBracket = none
  | 0 | 1 | 2 | 3 | 4 | 5 | _ + 6 => rfl

theorem readOperands_of_endsExpr (h : EndsExpr rest) (level : Nat) :
    readOperands stop (fuel + 1) level e rest = .ok (e, rest) := by
  rcases h with rfl | ⟨o, rest, rfl⟩
  · rw [readOperands]
  · rw [readOperands, binary?_closeBracket]

theorem readUnion_of_endsExpr (h : EndsExpr rest) :
    readUnion stop (fuel + 1) e rest = .ok (e, rest) := by
  rcases h with rfl | ⟨o, rest, rfl⟩ <;> rw [readUnion] <;> simp

/-- An operand at one level is an expression at the level below. -/
theorem readLevel_of_readLevel {level : Nat} (hlevel : level < levelCount) (hrest : EndsExpr rest)
    (h : readLevel stop (fuel + 1) (level + 1) ts = .ok (e, rest)) :
    readLevel stop (fuel + 2) level ts = .ok (e, rest) := by
  rw [readLevel, if_pos hlevel, h]
  exact readOperands_of_endsExpr hrest level

/-- A path is an expression. -/
theorem readLevel_of_readPath (hts : ∀ t ∈ ts.head?, t.2 ≠ .minus) (hrest : EndsExpr rest)
    (h : readPath stop (fuel + 1) ts = .ok (e, rest)) :
    readLevel stop (fuel + 9) 0 ts = .ok (e, rest) := by
  have hnegation : readLevel stop (fuel + 3) levelCount ts = .ok (e, rest) := by
    rw [readLevel, if_neg (Nat.lt_irrefl _), readNegation]
    · rw [h]
      exact readUnion_of_endsExpr hrest
    · intro o later heq
      exact hts _ (by rw [heq]; rfl) rfl
  -- one unit of fuel for each level from that of negations down to the lowest one
  have hdown : ∀ n level fuel, level + n = levelCount →
      readLevel stop (fuel + 1) levelCount ts = .ok (e, rest) →
      readLevel stop (fuel + 1 + n) level ts = .ok (e, rest) := by
    intro n
    induction n with
    | zero => rintro level fuel rfl h; exact h
    | succ n ih =>
      intro level fuel hn h
      have h' := ih (level + 1) fuel (by omega) h
      have hlevel : level < levelCount := by omega
      rw [show fuel + 1 + n = fuel + n + 1 by omega] at h'
      rw [show fuel + 1 + (n + 1) = fuel + n + 2 by omega]
      exact readLevel_of_readLevel hlevel hrest h'
  exact hdown 6 0 (fuel + 2) rfl hnegation

/-- A number is an expression. -/
theorem readLevel_number {o : Nat} {x : Float} (hrest : EndsExpr rest) :
    readLevel stop (fuel + 11) 0 ((o, .number x) :: rest) = .ok (.number x, rest) := by
  have hpredicates : readPredicates stop (fuel + 2) rest = .ok ([], rest) := by
    rcases hrest with rfl | ⟨o, rest, rfl⟩ <;> rw [readPredicates] <;> simp
  have hsteps : readMoreSteps stop (fuel + 2) rest = .ok ([], rest) := by
    rcases hrest with rfl | ⟨o, rest, rfl⟩ <;> rw [readMoreSteps] <;> simp
  refine readLevel_of_readPath (fun t ht => by cases ht; exact Token.noConfusion) hrest ?_
  rw [readPath]
  · rw [readPrimary]
    simp [startsPrimary, Bind.bind, Except.bind, hpredicates, hsteps]
    rfl
  all_goals simp

/-- A number in brackets is a predicate, and nothing else that follows it in a path is. -/
theorem readPredicates_number {o o' o'' : Nat} {x : Float}
    (hrest : ∀ t ∈ rest.head?, t.2 ≠ .openBracket) :
    readPredicates stop (fuel + 12)
        ((o, .openBracket) :: (o', .number x) :: (o'', .closeBracket) :: rest) =
      .ok ([.number x], rest) := by
  rw [readPredicates, readLevel_number (.inr ⟨o'', rest, rfl⟩)]
  have hnone : readPredicates stop (fuel + 11) rest = .ok ([], rest) := by
    rw [readPredicates]
    intro o later heq
    exact hrest _ (by rw [heq]; rfl) rfl
  simp [Bind.bind, Except.bind, hnone]
  rfl

/-- A name with a position is a child step. -/
theorem readStep_indexed {s : NameTest × Nat} {o₁ o₂ o₃ o₄ : Nat}
    (hrest : ∀ t ∈ rest.head?, t.2 ≠ .openBracket) :
    readStep stop (fuel + 13)
        ((o₁, .name s.1) :: (o₂, .openBracket) ::
          (o₃, .number (Number.Decimal.read false (Nat.toDigits 10 s.2))) ::
          (o₄, .closeBracket) :: rest) =
      .ok (indexedStep s, rest) := by
  rw [readStep]
  · simp only [readAxis, readNodeTest, Bind.bind, Except.bind]
    rw [readPredicates_number hrest]
    rfl
  all_goals simp

/-- A name behind the sign of attributes is a step to one. -/
theorem readStep_attribute {n : QName} {o o' : Nat} :
    readStep stop (fuel + 2) [(o, .atSign), (o', .name (testOf n))] =
      .ok (attributeStep n, []) := by
  rw [readStep]
  · simp only [readAxis, readNodeTest, Bind.bind, Except.bind]
    rw [readPredicates]
    · rfl
    · simp
  all_goals simp

/-- A name before parentheses may be a step to text. -/
theorem readStep_text {o o' o'' : Nat} :
    readStep stop (fuel + 2) [(o, .name (.name none "text")), (o', .openParen), (o'', .closeParen)] =
      .ok (textStep, []) := by
  have htype : isNodeType (.name none "text") = true := by decide
  have hnode : NameTest.name none "text" ≠ .name none "node" := by decide
  rw [readStep]
  · simp only [readAxis, readNodeTest, Bind.bind, Except.bind, htype, hnode, if_true, if_false]
    rw [readPredicates]
    · rfl
    · simp
  all_goals simp

theorem exists_step_offsets {s : NameTest × Nat} {later : List Token}
    (h : ts.map (·.2) = stepTokens s ++ later) :
    ∃ o o₁ o₂ o₃ o₄ rest, ts = (o, .slash) :: (o₁, .name s.1) :: (o₂, .openBracket) ::
      (o₃, .number (Number.Decimal.read false (Nat.toDigits 10 s.2))) :: (o₄, .closeBracket) ::
      rest ∧ rest.map (·.2) = later := by
  obtain ⟨⟨o, _⟩, ts, rfl, rfl, h₁⟩ := List.map_eq_cons_iff.1 h
  obtain ⟨⟨o₁, _⟩, ts, rfl, rfl, h₂⟩ := List.map_eq_cons_iff.1 h₁
  obtain ⟨⟨o₂, _⟩, ts, rfl, rfl, h₃⟩ := List.map_eq_cons_iff.1 h₂
  obtain ⟨⟨o₃, _⟩, ts, rfl, rfl, h₄⟩ := List.map_eq_cons_iff.1 h₃
  obtain ⟨⟨o₄, _⟩, rest, rfl, rfl, h₅⟩ := List.map_eq_cons_iff.1 h₄
  exact ⟨o, o₁, o₂, o₃, o₄, rest, rfl, h₅⟩

theorem exists_attribute_offsets {n : QName} (h : ts.map (·.2) = (Ending.attr n).tokens) :
    ∃ o o₁ o₂, ts = [(o, .slash), (o₁, .atSign), (o₂, .name (testOf n))] := by
  obtain ⟨⟨o, _⟩, ts, rfl, rfl, h₁⟩ := List.map_eq_cons_iff.1 h
  obtain ⟨⟨o₁, _⟩, ts, rfl, rfl, h₂⟩ := List.map_eq_cons_iff.1 h₁
  obtain ⟨⟨o₂, _⟩, ts, rfl, rfl, h₃⟩ := List.map_eq_cons_iff.1 h₂
  obtain rfl : ts = [] := List.map_eq_nil_iff.1 h₃
  exact ⟨o, o₁, o₂, rfl⟩

theorem exists_text_offsets (h : ts.map (·.2) = Ending.text.tokens) :
    ∃ o o₁ o₂ o₃, ts = [(o, .slash), (o₁, .name (.name none "text")), (o₂, .openParen),
      (o₃, .closeParen)] := by
  obtain ⟨⟨o, _⟩, ts, rfl, rfl, h₁⟩ := List.map_eq_cons_iff.1 h
  obtain ⟨⟨o₁, _⟩, ts, rfl, rfl, h₂⟩ := List.map_eq_cons_iff.1 h₁
  obtain ⟨⟨o₂, _⟩, ts, rfl, rfl, h₃⟩ := List.map_eq_cons_iff.1 h₂
  obtain ⟨⟨o₃, _⟩, ts, rfl, rfl, h₄⟩ := List.map_eq_cons_iff.1 h₃
  obtain rfl : ts = [] := List.map_eq_nil_iff.1 h₄
  exact ⟨o, o₁, o₂, o₃, rfl⟩

/-- What follows a step of a path is no predicate. -/
theorem head?_ne_openBracket {steps : List (NameTest × Nat)} {ending : Ending}
    (h : ts.map (·.2) = steps.flatMap stepTokens ++ ending.tokens) :
    ∀ t ∈ ts.head?, t.2 ≠ .openBracket := by
  intro t ht
  cases steps with
  | nil =>
    cases ending with
    | element =>
      obtain rfl : ts = [] := List.map_eq_nil_iff.1 h
      cases ht
    | attr n =>
      obtain ⟨o, o₁, o₂, rfl⟩ := exists_attribute_offsets h
      cases ht
      exact Token.noConfusion
    | text =>
      obtain ⟨o, o₁, o₂, o₃, rfl⟩ := exists_text_offsets h
      cases ht
      exact Token.noConfusion
  | cons s steps =>
    rw [List.flatMap_cons, List.append_assoc] at h
    obtain ⟨o, o₁, o₂, o₃, o₄, rest, rfl, -⟩ := exists_step_offsets h
    cases ht
    exact Token.noConfusion

/-- **The steps of a path are read from its tokens.** -/
theorem readMoreSteps_tokens {steps : List (NameTest × Nat)} {ending : Ending}
    (hf : 2 * steps.length + 16 ≤ fuel)
    (h : ts.map (·.2) = steps.flatMap stepTokens ++ ending.tokens) :
    readMoreSteps stop fuel ts = .ok (steps.map indexedStep ++ ending.readSteps, []) := by
  induction steps generalizing fuel ts with
  | nil =>
    obtain ⟨f, rfl⟩ : ∃ f, fuel = f + 4 := ⟨fuel - 4, by omega⟩
    cases ending with
    | element =>
      obtain rfl : ts = [] := List.map_eq_nil_iff.1 h
      rw [readMoreSteps]
      · rfl
      all_goals simp
    | attr n =>
      obtain ⟨o, o₁, o₂, rfl⟩ := exists_attribute_offsets h
      rw [readMoreSteps, readSteps, readStep_attribute]
      simp only [Bind.bind, Except.bind]
      rw [readMoreSteps]
      · rfl
      all_goals simp
    | text =>
      obtain ⟨o, o₁, o₂, o₃, rfl⟩ := exists_text_offsets h
      rw [readMoreSteps, readSteps, readStep_text]
      simp only [Bind.bind, Except.bind]
      rw [readMoreSteps]
      · rfl
      all_goals simp
  | cons s steps ih =>
    rw [List.length_cons] at hf
    -- two units for the step itself, thirteen for what is read in it
    obtain ⟨f, rfl⟩ : ∃ f, fuel = f + 15 := ⟨fuel - 15, by omega⟩
    rw [List.flatMap_cons, List.append_assoc] at h
    obtain ⟨o, o₁, o₂, o₃, o₄, rest, rfl, hrest⟩ := exists_step_offsets h
    rw [readMoreSteps, readSteps, readStep_indexed (head?_ne_openBracket hrest)]
    simp only [Bind.bind, Except.bind]
    rw [ih (by omega) hrest]
    rfl

end

namespace IndexedPath

/-- A path of names and positions is read as the path with these steps. -/
theorem readPath_tokens {p : IndexedPath} {stop fuel : Nat} {ts : Tokens} (hp : p.steps ≠ [])
    (hf : 2 * p.steps.length + 16 ≤ fuel) (h : ts.map (·.2) = p.tokens) :
    readPath stop fuel ts = .ok (.path true p.readSteps, []) := by
  obtain ⟨steps, ending⟩ := p
  cases steps with
  | nil => exact absurd rfl hp
  | cons s steps =>
    have hmore : readMoreSteps stop fuel ts = _ := readMoreSteps_tokens hf h
    rw [tokens, List.flatMap_cons, List.append_assoc] at h
    obtain ⟨o, o₁, o₂, o₃, o₄, rest, rfl, -⟩ := exists_step_offsets h
    obtain ⟨f, rfl⟩ : ∃ f, fuel = f + 1 := ⟨fuel - 1, by omega⟩
    rw [readMoreSteps] at hmore
    have hstarts : startsStep ((o₁, .name s.1) :: (o₂, .openBracket) ::
        (o₃, .number (Number.Decimal.read false (Nat.toDigits 10 s.2))) ::
        (o₄, .closeBracket) :: rest) = true := rfl
    rw [readPath, if_pos hstarts, hmore]
    rfl

theorem length_tokens (p : IndexedPath) : p.steps.length ≤ p.tokens.length := by
  have hsteps : p.steps.length ≤ (p.steps.flatMap stepTokens).length := by
    rw [List.length_flatMap]
    induction p.steps with
    | nil => simp
    | cons s steps ih =>
      simp only [List.length_cons, List.map_cons, List.sum_cons, stepTokens, List.length_nil] at *
      omega
  rw [tokens, List.length_append]
  omega

/-- **What a path of names and positions spells.** -/
theorem parse_eq {p : IndexedPath} (h : p.Legible) (hp : p.steps ≠ []) :
    Expr.parse (String.ofList p.chars) = .ok (.path true p.readSteps) := by
  obtain ⟨ts, hts, hmap⟩ := p.scans h false 0
  have hlen : ts.length = p.tokens.length := by rw [← hmap, List.length_map]
  have hle := p.length_tokens
  -- a path has at least one token for each of its steps
  obtain ⟨f, hbound, hf⟩ : ∃ f, nestingBound ts.length = f + 9 ∧
      2 * p.steps.length + 16 ≤ f + 1 :=
    ⟨nestingBound ts.length - 9, by rw [nestingBound]; omega, by rw [nestingBound]; omega⟩
  have hminus : ∀ t ∈ ts.head?, t.2 ≠ .minus := by
    intro t ht
    obtain ⟨s, steps, hs⟩ := List.exists_cons_of_ne_nil hp
    rw [IndexedPath.tokens, hs, List.flatMap_cons, List.append_assoc] at hmap
    obtain ⟨o, o₁, o₂, o₃, o₄, rest, rfl, -⟩ := exists_step_offsets hmap
    cases ht
    exact Token.noConfusion
  have hpath : readPath (String.ofList p.chars).utf8ByteSize (f + 1) ts = _ :=
    readPath_tokens hp hf hmap
  have hlevel := readLevel_of_readPath hminus (.inl rfl) hpath
  rw [Expr.parse, XPath.tokens, String.toList_ofList, hts]
  simp only [Bind.bind, Except.bind]
  rw [hbound, hlevel]
  rfl

end IndexedPath

end XmlAudit.XPath
