import XmlAudit.Proofs.Outcome
import XmlAudit.Proofs.XPath.Scanning

/-!
# Well-formed expressions

* `Token.Whole`: a token whose name, number or text can be written down.
* `Expr.WellFormed`: an expression that can be written down, with as many arguments as its functions
  take.
* `tokens_whole`: all tokens of a text are whole.
* `Readers`: what each level of reading makes of whole tokens.
* `Expr.wellFormed_of_parse`: whatever is read is well formed.
-/

namespace XmlAudit.XPath

/-! ## Words -/

/-- Digits with at most one point before, among or behind them. -/
def IsDecimal (cs : List Char) : Prop :=
  ∃ whole places : List Char, (∀ c ∈ whole ++ places, c.isDigit) ∧ whole ++ places ≠ [] ∧
    (cs = whole ∧ places = [] ∨ cs = whole ++ '.' :: places)

/-- A text without one of the two quotes, between which it can be written. -/
def IsQuotable (s : String) : Prop := '"' ∉ s.toList ∨ '\'' ∉ s.toList

/-- A text that is read as one name from end to end, with or without a colon in it. -/
def IsVariable (s : String) : Prop :=
  ∃ test, leadingQName? s.toList = some (test, s.toList.length)

/-- A name test whose parts are names. -/
def NameTest.Whole : NameTest → Prop
  | any => True
  | name q l => IsName l.toList ∧ ∀ p ∈ q, IsName p.toList
  | anyIn q => IsName q.toList
  | anywhere l => IsName l.toList

/-- A node test whose names are names. -/
def NodeTest.Whole : NodeTest → Prop
  | named test => test.Whole
  | _ => True

/-- A token whose name, number or text can be written down. -/
def Token.Whole : Token → Prop
  | literal s => IsQuotable s
  | number x => ∃ cs, IsDecimal cs ∧ Number.Decimal.read false cs = x
  | .variable s => IsVariable s
  | name test => test.Whole
  | _ => True

mutual

/-- **An expression that can be written down**: functions have as many arguments as they take, a path
from the context node has a step, and a filter has a predicate or a step. -/
def Expr.WellFormed : Expr → Prop
  | .or left right => left.WellFormed ∧ right.WellFormed
  | .and left right => left.WellFormed ∧ right.WellFormed
  | .compare _ left right => left.WellFormed ∧ right.WellFormed
  | .arithmetic _ left right => left.WellFormed ∧ right.WellFormed
  | .negate operand => operand.WellFormed
  | .union left right => left.WellFormed ∧ right.WellFormed
  | .path absolute steps => (absolute = true ∨ steps ≠ []) ∧ StepsWellFormed steps
  | .filter primary predicates steps =>
    (predicates ≠ [] ∨ steps ≠ []) ∧ primary.WellFormed ∧ AllWellFormed predicates ∧
      StepsWellFormed steps
  | .literal s => IsQuotable s
  | .number x => ∃ cs, IsDecimal cs ∧ Number.Decimal.read false cs = x
  | .variable s => IsVariable s
  | .call f arguments => f.accepts arguments.length ∧ AllWellFormed arguments

/-- Well-formed expressions. -/
def AllWellFormed : List Expr → Prop
  | [] => True
  | e :: es => e.WellFormed ∧ AllWellFormed es

/-- A step with well-formed predicates. -/
def Step.WellFormed : Step → Prop
  | .mk _ test predicates => test.Whole ∧ AllWellFormed predicates

/-- Steps with well-formed predicates. -/
def StepsWellFormed : List Step → Prop
  | [] => True
  | s :: rest => s.WellFormed ∧ StepsWellFormed rest

end

/-! ## Tokens of a text -/

/-- Behind a point, digits are all that belongs to a number. -/
theorem leadingNumber_true (cs : List Char) : leadingNumber true cs = cs.takeWhile Char.isDigit := by
  induction cs with
  | nil => rfl
  | cons c cs ih =>
    rw [leadingNumber, List.takeWhile_cons]
    split
    · rw [ih]
    · simp

/-- A number is digits, or digits before a point and behind it. -/
theorem leadingNumber_false (cs : List Char) : ∃ whole places : List Char,
    (∀ c ∈ whole ++ places, c.isDigit) ∧
      (leadingNumber false cs = whole ∧ places = [] ∨
        leadingNumber false cs = whole ++ '.' :: places) ∧
      (∀ c, cs.head? = some c → c.isDigit → whole ≠ []) ∧
      (∀ c later, cs = '.' :: c :: later → c.isDigit → places ≠ []) := by
  induction cs with
  | nil => exact ⟨[], [], by simp, .inl ⟨rfl, rfl⟩, by simp, by simp⟩
  | cons c cs ih =>
    rw [leadingNumber]
    split
    · next hc =>
      obtain ⟨whole, places, hall, hcs, -⟩ := ih
      refine ⟨c :: whole, places, ?_, ?_, by simp, ?_⟩
      · rw [List.cons_append, List.forall_mem_cons]
        exact ⟨hc, hall⟩
      · rcases hcs with ⟨hw, hp⟩ | hw
        · exact .inl ⟨by rw [hw], hp⟩
        · exact .inr (by rw [hw]; rfl)
      · intro d later heq
        cases heq
        exact absurd hc (by decide)
    · next hc =>
      split
      · next hpoint =>
        obtain ⟨rfl, -, -⟩ := hpoint
        refine ⟨[], cs.takeWhile Char.isDigit, ?_, ?_, ?_, ?_⟩
        · intro c hc
          exact List.mem_takeWhile_imp hc
        · exact .inr (by rw [leadingNumber_true]; rfl)
        · intro c heq hd
          cases heq
          exact absurd hd hc
        · intro d later heq hd
          cases heq
          rw [List.takeWhile_cons_of_pos hd]
          exact List.cons_ne_nil _ _
      · next hpoint =>
        refine ⟨[], [], by simp, .inl ⟨rfl, rfl⟩, ?_, ?_⟩
        · intro d heq hd
          cases heq
          exact absurd hd hc
        · rintro d later heq hd
          cases heq
          refine absurd ⟨rfl, rfl, ?_⟩ hpoint
          rintro heq
          cases heq
          exact absurd hd (by decide)

/-- What is read as a number is one. -/
theorem isDecimal_leadingNumber {c : Char} {cs : List Char}
    (h : c.isDigit || (c = '.' && (cs.head?.map Char.isDigit).getD false)) :
    IsDecimal (leadingNumber false (c :: cs)) := by
  obtain ⟨whole, places, hall, hcs, hwhole, hplaces⟩ := leadingNumber_false (c :: cs)
  refine ⟨whole, places, hall, ?_, hcs⟩
  rw [Ne, List.append_eq_nil_iff, not_and_or]
  rcases Bool.or_eq_true _ _ ▸ h with hc | hc
  · exact .inl (hwhole c rfl hc)
  · simp only [Bool.and_eq_true, decide_eq_true_eq] at hc
    obtain ⟨rfl, hc⟩ := hc
    cases cs with
    | nil => cases hc
    | cons d later => exact .inr (hplaces d later rfl hc)

theorem NameTest.whole_anywhere {cs : List Char} (h : (leadingName cs).isEmpty = false) :
    (anywhere (String.ofList (leadingName cs))).Whole := by
  rw [Whole, String.toList_ofList]
  exact isName_leadingName (by simpa using h)

/-- A name test that starts with a name: all but the two that start with a star. -/
def NameTest.Named : NameTest → Prop
  | name _ _ | anyIn _ => True
  | any | anywhere _ => False

theorem leadingName_prefix (cs : List Char) : leadingName cs <+: cs := by
  cases cs with
  | nil => exact List.nil_prefix
  | cons c cs =>
    rw [leadingName]
    split
    · exact List.takeWhile_prefix _
    · exact List.nil_prefix

/-- What is read as a name is whole and makes up all that is read. -/
theorem leadingQName?_eq_some {cs : List Char} {test : NameTest} {n : Nat}
    (h : leadingQName? cs = some (test, n)) :
    test.Named ∧ test.Whole ∧ test.render.toList.length = n ∧ test.render.toList <+: cs := by
  obtain ⟨rest, hrest⟩ := leadingName_prefix cs
  have hdrop : cs.drop (leadingName cs).length = rest := by
    have := @List.drop_left Char (leadingName cs) rest
    rwa [hrest] at this
  rw [leadingQName?, hdrop] at h
  simp only [List.isEmpty_iff] at h
  split at h
  · cases h
  · next hne =>
    have hfirst := isName_leadingName hne
    -- without a second name behind a colon, the first one is all that is read
    have hplain : ∀ {k : Nat}, some (NameTest.name none (String.ofList (leadingName cs)), k) =
        some (test, n) → k = (leadingName cs).length →
        test.Named ∧ test.Whole ∧ test.render.toList.length = n ∧ test.render.toList <+: cs := by
      rintro k heq rfl
      cases heq
      refine ⟨trivial, ⟨?_, by simp⟩, by simp [NameTest.render], ?_⟩
      · rw [String.toList_ofList]
        exact hfirst
      · rw [NameTest.render, String.toList_ofList]
        exact ⟨rest, hrest⟩
    split at h
    · next _ later =>
      cases h
      refine ⟨trivial, ?_, by simp [NameTest.render], later, ?_⟩
      · rw [NameTest.Whole, String.toList_ofList]
        exact hfirst
      · conv_rhs => rw [← hrest]
        simp [NameTest.render]
    · next later hstar =>
      split at h
      · exact hplain h rfl
      · next hsecond =>
        obtain ⟨behind, hbehind⟩ := leadingName_prefix later
        cases h
        refine ⟨trivial, ⟨?_, ?_⟩, ?_, behind, ?_⟩
        · rw [String.toList_ofList]
          exact isName_leadingName hsecond
        · intro p hp
          cases hp
          rw [String.toList_ofList]
          exact hfirst
        · simp [NameTest.render]
          omega
        · conv_rhs => rw [← hrest, ← hbehind]
          simp [NameTest.render]
    · exact hplain h rfl

/-- **A name is read whole** where it is followed by nothing that belongs to it. -/
theorem leadingQName?_render {test : NameTest} {rest : List Char} (hn : test.Named)
    (h : test.Whole) (hr : EndsName rest) (hcolon : rest.head? ≠ some ':') :
    leadingQName? (test.render.toList ++ rest) = some (test, test.render.toList.length) := by
  cases test with
  | any | anywhere => cases hn
  | name q l =>
    have hrender : (NameTest.name q l).render = (Xml.QName.mk q l).render := by cases q <;> rfl
    rw [hrender]
    exact leadingQName?_append h hr hcolon
  | anyIn q =>
    have hfirst : leadingName (q.toList ++ (':' :: '*' :: rest)) = q.toList :=
      leadingName_append h (endsName_sign (by decide) _)
    have hq : ¬q.toList = [] := h.1
    have hrender : (NameTest.anyIn q).render.toList ++ rest = q.toList ++ (':' :: '*' :: rest) := by
      simp [NameTest.render]
    rw [hrender, leadingQName?]
    simp [hfirst, hq, NameTest.render]

theorem isVariable_render {test : NameTest} (hn : test.Named) (h : test.Whole) :
    IsVariable test.render := by
  have := leadingQName?_render hn h endsName_nil (by simp)
  rw [List.append_nil] at this
  exact ⟨test, this⟩

theorem literalToken_whole {quote : Char} {cs : List Char} {t : Token} {n : Nat}
    (hq : quote = '"' ∨ quote = '\'') (h : literalToken quote cs = .ok (t, n)) : t.Whole := by
  rw [literalToken] at h
  split at h
  · cases h
  · cases h
    have hnot : quote ∉ (String.ofList (cs.takeWhile (· ≠ quote))).toList := by
      rw [String.toList_ofList]
      intro hmem
      simpa using List.mem_takeWhile_imp hmem
    rcases hq with rfl | rfl
    · exact .inl hnot
    · exact .inr hnot

theorem starToken_whole (behindOperand : Bool) (cs : List Char) :
    (starToken behindOperand cs).1.Whole := by
  unfold starToken
  split
  · trivial
  · split
    · dsimp only
      split
      · trivial
      · next h => exact NameTest.whole_anywhere (by simpa using h)
    · trivial

theorem nameToken_whole {behindOperand : Bool} {test : NameTest} (h : test.Whole) :
    (nameToken behindOperand test).Whole := by
  unfold nameToken
  split
  · split
    · trivial
    · trivial
    · trivial
    · trivial
    · exact h
  · exact h

/-- **A token that is scanned is whole.** -/
theorem scan_whole {behindOperand : Bool} {c : Char} {cs : List Char} {t : Token} {n : Nat}
    (h : Token.scan behindOperand c cs = .ok (t, n)) : t.Whole := by
  unfold Token.scan at h
  split at h
  -- signs, and then what has a text of its own
  all_goals first | (cases h; trivial) | skip
  · exact literalToken_whole (.inl rfl) h
  · exact literalToken_whole (.inr rfl) h
  · have hstar := starToken_whole behindOperand cs
    rw [Except.ok.inj h] at hstar
    exact hstar
  · split at h
    · next test k hname =>
      cases h
      obtain ⟨hn, hw, -⟩ := leadingQName?_eq_some hname
      exact isVariable_render hn hw
    · cases h
  · split at h
    · next hnumber =>
      cases h
      exact ⟨_, isDecimal_leadingNumber hnumber, rfl⟩
    · split at h
      · cases h
        trivial
      · split at h
        · next test k hname =>
          cases h
          exact nameToken_whole (leadingQName?_eq_some hname).2.1
        · cases h

/-- Tokens that are whole. -/
def AllWhole (ts : Tokens) : Prop := ∀ t ∈ ts, t.2.Whole

theorem tokensFrom_whole {behindOperand : Bool} {skip offset : Nat} {cs : List Char} {ts : Tokens}
    (h : tokensFrom behindOperand skip offset cs = .ok ts) : AllWhole ts := by
  induction cs generalizing behindOperand skip offset ts with
  | nil =>
    have hnil : tokensFrom behindOperand skip offset [] = .ok [] := by cases skip <;> rfl
    rw [hnil] at h
    cases h
    exact fun t ht => by cases ht
  | cons c cs ih =>
    cases skip with
    | succ skip => exact ih h
    | zero =>
      rw [tokensFrom] at h
      split at h
      · exact ih h
      · split at h
        · cases h
        · next token n hscan =>
          obtain ⟨later, hlater, h⟩ := bind_eq_ok.1 h
          cases h
          exact List.forall_mem_cons.2 ⟨scan_whole hscan, ih hlater⟩

/-- **The tokens of a text are whole.** -/
theorem tokens_whole {cs : List Char} {ts : Tokens} (h : tokens cs = .ok ts) : AllWhole ts :=
  tokensFrom_whole h

/-! ## What is read -/

/-- What is read, if anything, satisfies `P` and leaves whole tokens. -/
def Yields {α : Type} (P : α → Prop) (m : Reading (α × Tokens)) : Prop :=
  ∀ a rest, m = .ok (a, rest) → P a ∧ AllWhole rest

section

variable {α β : Type} {P : α → Prop} {Q : β → Prop}

theorem Yields.bind {m : Reading (α × Tokens)} {f : α × Tokens → Reading (β × Tokens)}
    (hm : Yields P m) (hf : ∀ a rest, P a → AllWhole rest → Yields Q (f (a, rest))) :
    Yields Q (m >>= f) := by
  intro b rest h
  obtain ⟨⟨a, later⟩, ha, h⟩ := bind_eq_ok.1 h
  obtain ⟨hP, hlater⟩ := hm a later ha
  exact hf a later hP hlater b rest h

theorem yields_ok {a : α} {rest : Tokens} (ha : P a) (hrest : AllWhole rest) :
    Yields P (.ok (a, rest)) := by
  intro b later h
  cases h
  exact ⟨ha, hrest⟩

theorem yields_error (e : SyntaxError) : Yields P (.error e) := by
  intro a rest h
  cases h

end

theorem AllWhole.tail {t : Nat × Token} {ts : Tokens} (h : AllWhole (t :: ts)) : AllWhole ts :=
  (List.forall_mem_cons.1 h).2

theorem AllWhole.head {t : Nat × Token} {ts : Tokens} (h : AllWhole (t :: ts)) : t.2.Whole :=
  (List.forall_mem_cons.1 h).1

theorem readAxis_yields {ts : Tokens} (h : AllWhole ts) :
    Yields (fun _ => True) (readAxis ts) := by
  unfold readAxis
  split
  · exact yields_ok trivial h.tail
  · split
    · exact yields_ok trivial h.tail.tail
    · exact yields_error _
  · exact yields_ok trivial h

theorem readNodeTest_yields {stop : Nat} {ts : Tokens} (h : AllWhole ts) :
    Yields NodeTest.Whole (readNodeTest stop ts) := by
  unfold readNodeTest
  split
  · split
    · split
      · split
        · split
          · exact yields_ok trivial h.tail.tail.tail
          · split
            · exact yields_ok trivial h.tail.tail.tail
            · exact yields_error _
        · exact yields_error _
      · exact yields_ok h.head h.tail
    · exact yields_ok h.head h.tail
  · exact yields_error _

theorem accepts_of_checkCall {test : NameTest} {count : Nat} {f : Function}
    (h : checkCall test count = .ok f) : f.accepts count := by
  unfold checkCall at h
  split at h
  · cases h
  · split at h
    · next ha =>
      cases h
      exact ha
    · cases h

theorem binary?_wellFormed {level : Nat} {t : Token} {build : Expr → Expr → Expr}
    (h : binary? level t = some build) {left right : Expr} (hl : left.WellFormed)
    (hr : right.WellFormed) : (build left right).WellFormed := by
  unfold binary? at h
  split at h <;> first | (cases h; exact ⟨hl, hr⟩) | cases h

/-- **What each level of reading makes of whole tokens** with an amount of fuel. -/
structure Readers (stop fuel : Nat) : Prop where
  level : ∀ level ts, AllWhole ts → Yields Expr.WellFormed (readLevel stop fuel level ts)
  operands : ∀ level left ts, left.WellFormed → AllWhole ts →
    Yields Expr.WellFormed (readOperands stop fuel level left ts)
  negation : ∀ ts, AllWhole ts → Yields Expr.WellFormed (readNegation stop fuel ts)
  union : ∀ left ts, left.WellFormed → AllWhole ts →
    Yields Expr.WellFormed (readUnion stop fuel left ts)
  path : ∀ ts, AllWhole ts → Yields Expr.WellFormed (readPath stop fuel ts)
  steps : ∀ ts, AllWhole ts →
    Yields (fun steps => steps ≠ [] ∧ StepsWellFormed steps) (readSteps stop fuel ts)
  moreSteps : ∀ ts, AllWhole ts → Yields StepsWellFormed (readMoreSteps stop fuel ts)
  step : ∀ ts, AllWhole ts → Yields Step.WellFormed (readStep stop fuel ts)
  predicates : ∀ ts, AllWhole ts → Yields AllWellFormed (readPredicates stop fuel ts)
  primary : ∀ ts, AllWhole ts → Yields Expr.WellFormed (readPrimary stop fuel ts)
  arguments : ∀ ts, AllWhole ts → Yields AllWellFormed (readArguments stop fuel ts)

namespace Readers

variable {stop fuel : Nat} {ts : Tokens} {left : Expr}

theorem readLevel_yields (h : Readers stop fuel) (level : Nat) (hts : AllWhole ts) :
    Yields Expr.WellFormed (readLevel stop (fuel + 1) level ts) := by
  rw [readLevel]
  split
  · exact (h.level _ _ hts).bind fun left rest hl hrest => h.operands level left rest hl hrest
  · exact h.negation ts hts

theorem readOperands_yields (h : Readers stop fuel) (level : Nat) (hl : left.WellFormed)
    (hts : AllWhole ts) : Yields Expr.WellFormed (readOperands stop (fuel + 1) level left ts) := by
  cases ts with
  | nil => exact yields_ok hl hts
  | cons t rest =>
    obtain ⟨o, t⟩ := t
    rw [readOperands]
    split
    · exact yields_ok hl hts
    · next build hbuild =>
      refine (h.level _ _ hts.tail).bind fun right rest hr hrest => ?_
      exact h.operands level _ rest (binary?_wellFormed hbuild hl hr) hrest

theorem readNegation_yields (h : Readers stop fuel) (hts : AllWhole ts) :
    Yields Expr.WellFormed (readNegation stop (fuel + 1) ts) := by
  unfold readNegation
  split
  · refine (h.negation _ hts.tail).bind fun operand rest ho hrest => ?_
    exact yields_ok ho hrest
  · exact (h.path ts hts).bind fun left rest hl hrest => h.union left rest hl hrest

theorem readUnion_yields (h : Readers stop fuel) (hl : left.WellFormed) (hts : AllWhole ts) :
    Yields Expr.WellFormed (readUnion stop (fuel + 1) left ts) := by
  unfold readUnion
  split
  · refine (h.path _ hts.tail).bind fun right rest hr hrest => ?_
    exact h.union _ rest ⟨hl, hr⟩ hrest
  · exact yields_ok hl hts

theorem readPath_yields (h : Readers stop fuel) (hts : AllWhole ts) :
    Yields Expr.WellFormed (readPath stop (fuel + 1) ts) := by
  have hdeep : Step.anyDepth.WellFormed := ⟨trivial, trivial⟩
  unfold readPath
  split
  · split
    · refine (h.steps _ hts.tail).bind fun steps rest hs hrest => ?_
      exact yields_ok ⟨.inl rfl, hs.2⟩ hrest
    · exact yields_ok ⟨.inl rfl, trivial⟩ hts.tail
  · refine (h.steps _ hts.tail).bind fun steps rest hs hrest => ?_
    exact yields_ok ⟨.inl rfl, hdeep, hs.2⟩ hrest
  · split
    · refine (h.primary ts hts).bind fun primary rest hp hrest => ?_
      refine (h.predicates rest hrest).bind fun predicates rest hps hrest => ?_
      refine (h.moreSteps rest hrest).bind fun steps rest hs hrest => ?_
      dsimp only
      split
      · exact yields_ok hp hrest
      · next hnone =>
        refine yields_ok ⟨?_, hp, hps, hs⟩ hrest
        simpa [← not_and_or] using hnone
    · refine (h.steps ts hts).bind fun steps rest hs hrest => ?_
      exact yields_ok ⟨.inr hs.1, hs.2⟩ hrest

theorem readSteps_yields (h : Readers stop fuel) (hts : AllWhole ts) :
    Yields (fun steps => steps ≠ [] ∧ StepsWellFormed steps) (readSteps stop (fuel + 1) ts) := by
  rw [readSteps]
  refine (h.step ts hts).bind fun step rest hs hrest => ?_
  refine (h.moreSteps rest hrest).bind fun steps rest hss hrest => ?_
  exact yields_ok ⟨List.cons_ne_nil _ _, hs, hss⟩ hrest

theorem readMoreSteps_yields (h : Readers stop fuel) (hts : AllWhole ts) :
    Yields StepsWellFormed (readMoreSteps stop (fuel + 1) ts) := by
  unfold readMoreSteps
  split
  · intro steps rest hsteps
    obtain ⟨hs, hrest⟩ := h.steps _ hts.tail steps rest hsteps
    exact ⟨hs.2, hrest⟩
  · refine (h.steps _ hts.tail).bind fun steps rest hs hrest => ?_
    exact yields_ok ⟨⟨trivial, trivial⟩, hs.2⟩ hrest
  · exact yields_ok trivial hts

theorem readStep_yields (h : Readers stop fuel) (hts : AllWhole ts) :
    Yields Step.WellFormed (readStep stop (fuel + 1) ts) := by
  unfold readStep
  split
  · exact yields_ok ⟨trivial, trivial⟩ hts.tail
  · exact yields_ok ⟨trivial, trivial⟩ hts.tail
  · refine (readAxis_yields hts).bind fun axis rest _ hrest => ?_
    refine (readNodeTest_yields hrest).bind fun test rest ht hrest => ?_
    refine (h.predicates rest hrest).bind fun predicates rest hp hrest => ?_
    exact yields_ok ⟨ht, hp⟩ hrest

theorem readPredicates_yields (h : Readers stop fuel) (hts : AllWhole ts) :
    Yields AllWellFormed (readPredicates stop (fuel + 1) ts) := by
  unfold readPredicates
  split
  · refine (h.level _ _ hts.tail).bind fun predicate rest hp hrest => ?_
    dsimp only
    split
    · refine (h.predicates _ hrest.tail).bind fun predicates rest hps hrest => ?_
      exact yields_ok ⟨hp, hps⟩ hrest
    · exact yields_error _
  · exact yields_ok trivial hts

theorem readArguments_yields (h : Readers stop fuel) (hts : AllWhole ts) :
    Yields AllWellFormed (readArguments stop (fuel + 1) ts) := by
  rw [readArguments]
  refine (h.level _ _ hts).bind fun argument rest ha hrest => ?_
  dsimp only
  split
  · refine (h.arguments _ hrest.tail).bind fun later rest hl hrest => ?_
    exact yields_ok ⟨ha, hl⟩ hrest
  · exact yields_ok ⟨ha, trivial⟩ hrest.tail
  · exact yields_error _

theorem readPrimary_yields (h : Readers stop fuel) (hts : AllWhole ts) :
    Yields Expr.WellFormed (readPrimary stop (fuel + 1) ts) := by
  unfold readPrimary
  split
  · exact yields_ok hts.head hts.tail
  · exact yields_ok hts.head hts.tail
  · exact yields_ok hts.head hts.tail
  · refine (h.level _ _ hts.tail).bind fun inner rest hi hrest => ?_
    dsimp only
    split
    · exact yields_ok hi hrest.tail
    · exact yields_error _
  · dsimp only
    split <;> refine Yields.bind (P := AllWellFormed) ?_ fun arguments rest ha hrest => ?_
    case h_1.refine_1 => exact yields_ok trivial hts.tail.tail.tail
    case h_2.refine_1 => exact h.arguments _ hts.tail.tail
    -- the call is checked alike, with arguments or without
    all_goals
      dsimp only
      split
      · next f hf => exact yields_ok ⟨accepts_of_checkCall hf, ha⟩ hrest
      · exact yields_error _
  · exact yields_error _

end Readers

theorem readers (stop fuel : Nat) : Readers stop fuel := by
  induction fuel with
  | zero =>
    constructor <;> intros <;> exact yields_error _
  | succ fuel ih =>
    exact ⟨fun level _ => ih.readLevel_yields level, fun level _ _ => ih.readOperands_yields level,
      fun _ => ih.readNegation_yields, fun _ _ => ih.readUnion_yields, fun _ => ih.readPath_yields,
      fun _ => ih.readSteps_yields, fun _ => ih.readMoreSteps_yields, fun _ => ih.readStep_yields,
      fun _ => ih.readPredicates_yields, fun _ => ih.readPrimary_yields,
      fun _ => ih.readArguments_yields⟩

/-- **Whatever is read is well formed.** -/
theorem Expr.wellFormed_of_parse {source : String} {e : Expr} (h : Expr.parse source = .ok e) :
    e.WellFormed := by
  obtain ⟨ts, hts, h⟩ := bind_eq_ok.1 h
  obtain ⟨⟨e', rest⟩, he, h⟩ := bind_eq_ok.1 h
  obtain ⟨hwf, -⟩ := (readers _ _).level 0 ts (tokens_whole hts) e' rest he
  cases rest with
  | nil =>
    cases h
    exact hwf
  | cons t rest => cases h

end XmlAudit.XPath
