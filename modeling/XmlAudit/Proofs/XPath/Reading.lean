import XmlAudit.Proofs.XPath.Spelling

/-!
# Reading what is written

* `Begins`: tokens that start with given ones, wherever they stand in the text.
* `readOperand`, `readMore`: one reader for every level of operators, and what reads on behind it.
* `StartsAt`: tokens that are read as an operand of a level, up to what follows at that level.
* `StartsAt.binary`, `StartsAt.operand`: an operator between two operands, and an operand in
  parentheses where it needs them.
* `Expr.startsAt_written`: the tokens of a well-formed expression are read as it.
* `parse_inverts_writing`: an expression is read from each of its texts, and nothing else is read.
-/

namespace XmlAudit.XPath

/-! ## Tokens with offsets -/

/-- Tokens `ts` that start with `toks`, and the `rest` behind these. -/
def Begins : List Token → Tokens → Tokens → Prop
  | [], ts, rest => ts = rest
  | t :: toks, ts, rest => ∃ o later, ts = (o, t) :: later ∧ Begins toks later rest

theorem begins_append {toks toks' : List Token} {ts rest : Tokens} :
    Begins (toks ++ toks') ts rest ↔ ∃ between, Begins toks ts between ∧ Begins toks' between rest := by
  induction toks generalizing ts with
  | nil => simp [Begins]
  | cons t toks ih =>
    simp only [List.cons_append, Begins, ih]
    constructor
    · rintro ⟨o, later, rfl, between, h, h'⟩
      exact ⟨between, ⟨o, later, rfl, h⟩, h'⟩
    · rintro ⟨between, ⟨o, later, rfl, h⟩, h'⟩
      exact ⟨o, later, rfl, between, h, h'⟩

theorem begins_map (ts : Tokens) : Begins (ts.map (·.2)) ts [] := by
  induction ts with
  | nil => rfl
  | cons t ts ih => exact ⟨t.1, ts, rfl, ih⟩

/-! ## What stands behind -/

/-- How tight a token binds what stands before it: not at all if it closes or separates, one above
its level if it is a binary operator, and tighter than all operators if it belongs to a path. -/
def Token.grip : Token → Nat
  | .closeParen | .closeBracket | .comma => 0
  | .or => 1
  | .and => 2
  | .compare op => op.level + 1
  | .plus | .minus => 5
  | .multiply | .div | .mod => 6
  | .pipe => 8
  | _ => 10

/-- No token is a binary operator of the level of minus signs. -/
theorem Token.grip_ne (t : Token) : t.grip ≠ 7 := by
  cases t with
  | compare op => cases op <;> decide
  | _ => simp [grip]

/-- **What ends an operand of a level**: nothing, or a token that binds it less tight than the
operators of that level. -/
def Ends (level : Nat) (rest : Tokens) : Prop := ∀ t ∈ rest.head?, t.2.grip ≤ level

theorem Ends.mono {level level' : Nat} {rest : Tokens} (h : Ends level rest)
    (hle : level ≤ level') : Ends level' rest :=
  fun t ht => (h t ht).trans hle

theorem ends_cons {level : Nat} {t : Token} (h : t.grip ≤ level) (o : Nat) (rest : Tokens) :
    Ends level ((o, t) :: rest) := by
  intro t' ht
  cases ht
  exact h

/-- What ends an operand of a union belongs to no path. -/
theorem Ends.ne {rest : Tokens} (h : Ends 9 rest) {t : Token} (ht : t.grip = 10) :
    ∀ o later, rest ≠ (o, t) :: later := by
  rintro o later rfl
  have hgrip : t.grip ≤ 9 := h _ rfl
  omega

/-! ## Levels -/

/-- The operator that a token is at a level, unions among them. -/
def operator? (level : Nat) (t : Token) : Option (Expr → Expr → Expr) :=
  match level, t with
  | 7, .pipe => some .union
  | level, t => binary? level t

theorem grip_of_binary? {level : Nat} {t : Token} {build : Expr → Expr → Expr}
    (h : binary? level t = some build) : t.grip = level + 1 := by
  unfold binary? at h
  split at h <;> first | rfl | cases h

theorem grip_of_operator? {level : Nat} {t : Token} {build : Expr → Expr → Expr}
    (h : operator? level t = some build) : t.grip = level + 1 := by
  unfold operator? at h
  split at h
  · rfl
  · exact grip_of_binary? h

theorem Ends.binary?_eq_none {level : Nat} {o : Nat} {t : Token} {rest : Tokens}
    (h : Ends level ((o, t) :: rest)) : binary? level t = none := by
  rw [Option.eq_none_iff_forall_ne_some]
  intro build hbuild
  have hgrip : t.grip ≤ level := h _ rfl
  have := grip_of_binary? hbuild
  omega

/-- Reads an operand of a level: of a binary operator below 6, a negation or what can stand in its
place at 6, a union at 7, and a path at 8. -/
def readOperand (level stop fuel : Nat) (ts : Tokens) : Reading (Expr × Tokens) :=
  match level with
  | 7 => readNegation stop fuel ts
  | 8 => readPath stop fuel ts
  | level => readLevel stop fuel level ts

/-- Reads what follows an operand at its level. -/
def readMore (level stop fuel : Nat) (e : Expr) (ts : Tokens) : Reading (Expr × Tokens) :=
  match level with
  | 6 | 8 => .ok (e, ts)
  | 7 => readUnion stop fuel e ts
  | level => readOperands stop fuel level e ts

theorem readOperand_path : readOperand 8 = readPath := rfl

theorem readOperand_level {level : Nat} (h : level ≤ 6) (stop fuel : Nat) (ts : Tokens) :
    readOperand level stop fuel ts = readLevel stop fuel level ts := by
  rw [readOperand] <;> (rintro rfl; omega)

section

variable {stop fuel level : Nat} {e : Expr} {ts rest : Tokens}

/-- **An operand of a level is one of the level above, and what follows it.** -/
theorem readOperand_succ (hlevel : level ≤ 7)
    (hminus : level = 7 → ∀ o later, ts ≠ (o, .minus) :: later) :
    readOperand level stop (fuel + 1) ts =
      readOperand (level + 1) stop fuel ts >>= fun left =>
        readMore level stop fuel left.1 left.2 := by
  obtain hlevel | rfl | rfl : level < 6 ∨ level = 6 ∨ level = 7 := by omega
  · have hcount : level < levelCount := hlevel
    rw [readOperand_level (by omega), readLevel, if_pos hcount]
    interval_cases level <;> rfl
  · rw [readOperand_level (by omega), readLevel, if_neg (by decide)]
    -- nothing follows at this level
    change _ = readNegation stop fuel ts >>= fun left => .ok (left.1, left.2)
    cases readNegation stop fuel ts <;> rfl
  · change readNegation stop (fuel + 1) ts = _
    rw [readNegation]
    · rfl
    · exact hminus rfl

/-- An operator of a level, its right operand, and what follows this. -/
theorem readMore_operator {o : Nat} {t : Token} {build : Expr → Expr → Expr}
    (h : operator? level t = some build) :
    readMore level stop (fuel + 1) e ((o, t) :: ts) =
      readOperand (level + 1) stop fuel ts >>= fun right =>
        readMore level stop fuel (build e right.1) right.2 := by
  have hbinary : binary? level t = some build → readOperands stop (fuel + 1) level e ((o, t) :: ts) =
      readLevel stop fuel (level + 1) ts >>= fun right =>
        readOperands stop fuel level (build e right.1) right.2 := by
    intro hbuild
    rw [readOperands, hbuild]
  obtain hlevel | rfl | rfl | hlevel : level < 6 ∨ level = 6 ∨ level = 7 ∨ 8 ≤ level := by omega
  · interval_cases level <;> exact hbinary h
  · cases t <;> cases h
  · obtain ⟨rfl, rfl⟩ : t = .pipe ∧ build = .union := by
      cases t <;> cases h
      exact ⟨rfl, rfl⟩
    change readUnion stop (fuel + 1) e ((o, .pipe) :: ts) = _
    rw [readUnion]
    rfl
  · obtain ⟨k, rfl⟩ := Nat.exists_eq_add_of_le' hlevel
    cases t <;> cases h

/-- Nothing follows an operand that has ended. -/
theorem readMore_ends (h : Ends level rest) (hlevel : level ≤ 8) :
    readMore level stop (fuel + 1) e rest = .ok (e, rest) := by
  have hbinary : readOperands stop (fuel + 1) level e rest = .ok (e, rest) := by
    cases rest with
    | nil => rw [readOperands]
    | cons t rest => rw [readOperands, h.binary?_eq_none]
  obtain hlevel' | rfl | rfl | rfl : level < 6 ∨ level = 6 ∨ level = 7 ∨ level = 8 := by omega
  · interval_cases level <;> exact hbinary
  · rfl
  · change readUnion stop (fuel + 1) e rest = _
    rw [readUnion]
    rintro o later rfl
    have hpipe : Token.pipe.grip ≤ 7 := h _ rfl
    exact absurd hpipe (by decide)
  · rfl

end

/-! ## Operands -/

/-- **What is read from tokens** wherever they stand before a `rest` that ends them. The fuel has to
cover the tokens, up to some slack. -/
def Reads {α : Type} (read : Nat → Nat → Tokens → Reading (α × Tokens)) (slack : Nat)
    (ends : Tokens → Prop) (toks : List Token) (a : α) : Prop :=
  ∀ stop fuel ts rest, Begins toks ts rest → ends rest → 0 < fuel →
    16 * toks.length ≤ fuel + slack → read stop fuel ts = .ok (a, rest)

/-- **Tokens that start with an operand of a level**, and go on at that level: what is read from them
is what is read behind the operand, with less fuel. -/
structure StartsAt (level : Nat) (e : Expr) (toks : List Token) : Prop where
  bound : level ≤ 8
  ne_nil : toks ≠ []
  reads : ∀ stop fuel ts rest, Begins toks ts rest → Ends (level + 1) rest →
    16 * toks.length ≤ fuel + level →
    ∃ fuel', fuel ≤ fuel' + 1 + toks.length ∧
      readOperand level stop fuel ts = readMore level stop fuel' e rest

section

variable {level slack : Nat} {e left right : Expr} {toks toks' : List Token}

/-- An operand that has ended is read. -/
theorem StartsAt.reads_operand (h : StartsAt level e toks) :
    Reads (readOperand level) level (Ends level) toks e := by
  intro stop fuel ts rest hts hrest _ hfuel
  have hlen : 0 < toks.length := List.length_pos_iff.2 h.ne_nil
  obtain ⟨fuel', hle, hread⟩ := h.reads stop fuel ts rest hts (hrest.mono (Nat.le_succ _)) hfuel
  have hbound := h.bound
  obtain ⟨f, rfl⟩ : ∃ f, fuel' = f + 1 := ⟨fuel' - 1, by omega⟩
  rw [hread, readMore_ends hrest hbound]

/-- A whole expression is read. -/
theorem StartsAt.reads_level (h : StartsAt 0 e toks) {stop fuel : Nat} {ts rest : Tokens}
    (hts : Begins toks ts rest) (hrest : Ends 0 rest) (hfuel : 16 * toks.length < fuel) :
    readLevel stop fuel 0 ts = .ok (e, rest) :=
  h.reads_operand stop fuel ts rest hts hrest (by omega) (by omega)

/-- Tokens with which no path starts. -/
def Token.startsNothing : Token → Bool
  | .minus | .closeParen => true
  | _ => false

theorem readPath_startsNothing {stop fuel o : Nat} {t : Token} {ts : Tokens}
    (h : t.startsNothing) : ∃ fault, readPath stop fuel ((o, t) :: ts) = .error fault := by
  -- three readers deep, the token is refused; with less fuel, the reader gives up before that
  match fuel with
  | 0 => exact ⟨_, rfl⟩
  | 1 => cases t <;> first | exact ⟨_, rfl⟩ | cases h
  | 2 => cases t <;> first | exact ⟨_, rfl⟩ | cases h
  | fuel + 3 => cases t <;> first | exact ⟨_, rfl⟩ | cases h

/-- A path does not start with a minus sign. -/
theorem StartsAt.ne_minus (h : StartsAt 8 e toks) {fuel : Nat} {ts rest : Tokens}
    (hts : Begins toks ts rest) (hrest : Ends 8 rest) (hfuel : 16 * toks.length ≤ fuel + 8) :
    ∀ o later, ts ≠ (o, .minus) :: later := by
  rintro o later rfl
  have hlen : 0 < toks.length := List.length_pos_iff.2 h.ne_nil
  have hread := h.reads_operand 0 fuel _ rest hts hrest (by omega) hfuel
  obtain ⟨fault, herror⟩ := @readPath_startsNothing 0 fuel o .minus later rfl
  rw [readOperand_path, herror] at hread
  cases hread

/-- **An operand of the level above is one.** -/
theorem StartsAt.lower (h : StartsAt (level + 1) e toks) : StartsAt level e toks where
  bound := Nat.le_of_succ_le h.bound
  ne_nil := h.ne_nil
  reads := by
    intro stop fuel ts rest hts hrest hfuel
    have hlen : 0 < toks.length := List.length_pos_iff.2 h.ne_nil
    have hbound := h.bound
    obtain ⟨f, rfl⟩ : ∃ f, fuel = f + 1 := ⟨fuel - 1, by omega⟩
    have hread := h.reads_operand stop f ts rest hts hrest (by omega) (by omega)
    have hminus : level = 7 → ∀ o later, ts ≠ (o, .minus) :: later := by
      rintro rfl
      exact h.ne_minus hts hrest (by omega)
    -- nothing at this level follows the operand, so that it is read behind it with one step less
    refine ⟨f, by omega, ?_⟩
    rw [readOperand_succ (by omega) hminus, hread]
    rfl

theorem StartsAt.mono {level' : Nat} (h : StartsAt level e toks) (hle : level' ≤ level) :
    StartsAt level' e toks := by
  obtain ⟨n, rfl⟩ := Nat.exists_eq_add_of_le hle
  clear hle
  induction n with
  | zero => exact h
  | succ n ih => exact ih h.lower

/-- **A binary operator between two operands**: the left one goes on at its level, the right one is of
the level above. -/
theorem StartsAt.binary {t : Token} {build : Expr → Expr → Expr} (hl : StartsAt level left toks)
    (hbuild : operator? level t = some build) (hr : StartsAt (level + 1) right toks') :
    StartsAt level (build left right) (toks ++ t :: toks') where
  bound := hl.bound
  ne_nil := by simp
  reads := by
    intro stop fuel ts rest hts hrest hfuel
    rw [List.length_append, List.length_cons] at hfuel
    obtain ⟨between, hleft, o, later, rfl, hright⟩ := begins_append.1 hts
    have hgrip : t.grip = level + 1 := grip_of_operator? hbuild
    have hlen : 0 < toks.length := List.length_pos_iff.2 hl.ne_nil
    have hlen' : 0 < toks'.length := List.length_pos_iff.2 hr.ne_nil
    have hbound := hr.bound
    obtain ⟨fuel', hle, hread⟩ :=
      hl.reads stop fuel ts _ hleft (ends_cons hgrip.le o later) (by omega)
    obtain ⟨f, rfl⟩ : ∃ f, fuel' = f + 1 := ⟨fuel' - 1, by omega⟩
    have hread' := hr.reads_operand stop f later rest hright hrest (by omega) (by omega)
    refine ⟨f, by rw [List.length_append, List.length_cons]; omega, ?_⟩
    rw [hread, readMore_operator hbuild, hread']
    rfl

/-- A minus sign before an operand. -/
theorem StartsAt.negate (h : StartsAt 6 e toks) : StartsAt 6 (.negate e) (.minus :: toks) where
  bound := by decide
  ne_nil := List.cons_ne_nil _ _
  reads := by
    rintro stop fuel ts rest ⟨o, later, rfl, hlater⟩ hrest hfuel
    rw [List.length_cons] at hfuel
    obtain ⟨f, rfl⟩ : ∃ f, fuel = f + 2 := ⟨fuel - 2, by omega⟩
    have hrest' : Ends 6 rest := by
      intro t ht
      have hgrip := hrest t ht
      have hne := t.2.grip_ne
      omega
    have hread := h.reads_operand stop (f + 1) later rest hlater hrest' (by omega) (by omega)
    refine ⟨f, by rw [List.length_cons]; omega, ?_⟩
    -- what is negated is read as a negation, without the level above
    rw [readOperand_level (Nat.le_refl 6), readLevel, if_neg (by decide)] at hread
    rw [readOperand_level (Nat.le_refl 6), readLevel, if_neg (by decide), readNegation, hread]
    rfl

/-- What is read where a level has no operators is an operand of it. -/
theorem startsAt_of_reads (hlevel : level = 6 ∨ level = 8) (hne : toks ≠ [])
    (h : Reads (readOperand level) level (Ends (level + 1)) toks e) :
    StartsAt level e toks where
  bound := by omega
  ne_nil := hne
  reads := by
    intro stop fuel ts rest hts hrest hfuel
    have hlen : 0 < toks.length := List.length_pos_iff.2 hne
    refine ⟨fuel, by omega, ?_⟩
    rw [h stop fuel ts rest hts hrest (by omega) hfuel]
    rcases hlevel with rfl | rfl <;> rfl

end

/-! ## Paths -/

/-- What can follow a step: the slash before the next one, or what ends a path. -/
def EndsStep (rest : Tokens) : Prop := ∀ t ∈ rest.head?, t.2 = .slash ∨ t.2.grip ≤ 9

/-- What follows a node test: a predicate, or what follows its step. -/
def EndsTest (rest : Tokens) : Prop := ∀ o later, rest ≠ (o, .openParen) :: later

section

variable {e : Expr} {es : List Expr} {s : Step} {steps : List Step} {toks : List Token}
  {ts rest : Tokens}

theorem Ends.endsStep (h : Ends 9 rest) : EndsStep rest := fun t ht => .inr (h t ht)

/-- What ends a step neither opens a predicate nor goes on with its node test. -/
theorem EndsStep.ne (h : EndsStep rest) {t : Token} (ht : t.grip = 10) (hslash : t ≠ .slash) :
    ∀ o later, rest ≠ (o, t) :: later := by
  rintro o later rfl
  rcases h _ rfl with heq | hgrip
  · exact hslash heq
  · simp only [ht] at hgrip
    omega

/-- No step starts behind a path. -/
theorem Ends.startsStep (h : Ends 9 rest) : startsStep rest = false := by
  unfold XPath.startsStep
  split
  · exact absurd rfl (h.ne rfl _ _)
  · exact absurd rfl (h.ne rfl _ _)
  · exact absurd rfl (h.ne rfl _ _)
  · exact absurd rfl (h.ne rfl _ _)
  · rfl

theorem endsStep_behindSlashes (h : Begins (behindSlashes steps) ts rest) (hrest : Ends 9 rest) :
    EndsStep ts := by
  cases steps with
  | nil =>
    cases h
    exact hrest.endsStep
  | cons s steps =>
    obtain ⟨o, later, rfl, -⟩ := h
    intro t ht
    cases ht
    exact .inl rfl

theorem endsTest_inBrackets (h : Begins (inBrackets es) ts rest) (hrest : EndsStep rest) :
    EndsTest ts := by
  cases es with
  | nil =>
    cases h
    exact hrest.ne rfl Token.noConfusion
  | cons e es =>
    obtain ⟨o, later, rfl, -⟩ := h
    intro o' later' heq
    cases heq

theorem readAxis_written {axis : Axis} {o o' : Nat} :
    readAxis ((o, .name (.name none axis.name)) :: (o', .axisMark) :: rest) = .ok (axis, rest) := by
  have hname : Axis.ofName? axis.name = some axis := by cases axis <;> decide
  rw [readAxis]
  simp only [NameTest.render, hname]

theorem readNodeTest_written {stop : Nat} {test : NodeTest} (h : Begins test.written ts rest)
    (hrest : EndsTest rest) : readNodeTest stop ts = .ok (test, rest) := by
  cases test with
  | named test =>
    obtain ⟨o, later, rfl, rfl⟩ := h
    simp only [readNodeTest]
    split
    · exact absurd rfl (hrest _ _)
    · rfl
  | node =>
    obtain ⟨o, _, rfl, o', _, rfl, o'', _, rfl, rfl⟩ := h
    rfl
  | text =>
    obtain ⟨o, _, rfl, o', _, rfl, o'', _, rfl, rfl⟩ := h
    rfl

/-- No predicates. -/
theorem reads_inBrackets_nil : Reads readPredicates 0 EndsStep (inBrackets []) [] := by
  rintro stop fuel ts rest rfl hrest hpos -
  obtain ⟨f, rfl⟩ : ∃ f, fuel = f + 1 := ⟨fuel - 1, by omega⟩
  rw [readPredicates]
  exact hrest.ne rfl Token.noConfusion

/-- A predicate before others. -/
theorem reads_inBrackets_cons (h : StartsAt 0 e e.written)
    (hes : Reads readPredicates 0 EndsStep (inBrackets es) es) :
    Reads readPredicates 0 EndsStep (inBrackets (e :: es)) (e :: es) := by
  rintro stop fuel ts rest ⟨o, later, rfl, hlater⟩ hrest hpos hfuel
  obtain ⟨between, he, o', behind, rfl, hbehind⟩ := begins_append.1 hlater
  simp only [inBrackets, List.length_cons, List.length_append] at hfuel
  obtain ⟨f, rfl⟩ : ∃ f, fuel = f + 1 := ⟨fuel - 1, by omega⟩
  have hclose : Ends 0 ((o', .closeBracket) :: behind) := ends_cons (Nat.le_refl 0) o' behind
  rw [readPredicates, h.reads_level he hclose (by omega)]
  simp only [Bind.bind, Except.bind]
  rw [hes stop f behind rest hbehind hrest (by omega) (by omega)]
  rfl

/-- A step with its predicates. -/
theorem reads_step {axis : Axis} {test : NodeTest}
    (hes : Reads readPredicates 0 EndsStep (inBrackets es) es) :
    Reads readStep 10 EndsStep (Step.mk axis test es).written (.mk axis test es) := by
  rintro stop fuel ts rest ⟨o, _, rfl, o', later, rfl, hlater⟩ hrest hpos hfuel
  obtain ⟨between, htest, hpredicates⟩ := begins_append.1 hlater
  simp only [Step.written, List.length_cons, List.length_append] at hfuel
  obtain ⟨f, rfl⟩ : ∃ f, fuel = f + 1 := ⟨fuel - 1, by omega⟩
  rw [readStep]
  · simp only [readAxis_written, Bind.bind, Except.bind]
    rw [readNodeTest_written htest (endsTest_inBrackets hpredicates hrest)]
    dsimp only
    rw [hes stop f between rest hpredicates hrest (by omega) (by omega)]
    rfl
  all_goals simp

/-- A step before others. -/
theorem reads_steps (hs : Reads readStep 10 EndsStep s.written s)
    (hsteps : Reads readMoreSteps 8 (Ends 9) (behindSlashes steps) steps) :
    Reads readSteps 9 (Ends 9) (s.written ++ behindSlashes steps) (s :: steps) := by
  intro stop fuel ts rest hts hrest hpos hfuel
  obtain ⟨between, hstep, hbetween⟩ := begins_append.1 hts
  have hlen : 1 < s.written.length := by
    cases s
    simp [Step.written]
  rw [List.length_append] at hfuel
  obtain ⟨f, rfl⟩ : ∃ f, fuel = f + 1 := ⟨fuel - 1, by omega⟩
  have hends := endsStep_behindSlashes hbetween hrest
  rw [readSteps, hs stop f ts between hstep hends (by omega) (by omega)]
  simp only [Bind.bind, Except.bind]
  rw [hsteps stop f between rest hbetween hrest (by omega) (by omega)]
  rfl

theorem reads_behindSlashes_nil : Reads readMoreSteps 8 (Ends 9) (behindSlashes []) [] := by
  rintro stop fuel ts rest rfl hrest hpos -
  obtain ⟨f, rfl⟩ : ∃ f, fuel = f + 1 := ⟨fuel - 1, by omega⟩
  rw [readMoreSteps]
  · exact hrest.ne rfl
  · exact hrest.ne rfl

theorem reads_behindSlashes_cons
    (h : Reads readSteps 9 (Ends 9) (s.written ++ behindSlashes steps) (s :: steps)) :
    Reads readMoreSteps 8 (Ends 9) (behindSlashes (s :: steps)) (s :: steps) := by
  rintro stop fuel ts rest ⟨o, later, rfl, hlater⟩ hrest hpos hfuel
  rw [behindSlashes, List.length_cons] at hfuel
  obtain ⟨f, rfl⟩ : ∃ f, fuel = f + 1 := ⟨fuel - 1, by omega⟩
  rw [readMoreSteps]
  exact h stop f later rest hlater hrest (by omega) (by omega)

/-- The root. -/
theorem startsAt_root : StartsAt 8 (.path true []) [.slash] := by
  refine startsAt_of_reads (.inr rfl) (List.cons_ne_nil _ _) ?_
  rintro stop fuel ts rest ⟨o, later, rfl, rfl⟩ hrest hpos -
  obtain ⟨f, rfl⟩ : ∃ f, fuel = f + 1 := ⟨fuel - 1, by omega⟩
  rw [readOperand_path, readPath, hrest.startsStep]
  rfl

/-- Steps from the root. -/
theorem startsAt_absolute
    (h : Reads readSteps 9 (Ends 9) (s.written ++ behindSlashes steps) (s :: steps)) :
    StartsAt 8 (.path true (s :: steps)) (behindSlashes (s :: steps)) := by
  refine startsAt_of_reads (.inr rfl) (List.cons_ne_nil _ _) ?_
  rintro stop fuel ts rest ⟨o, later, rfl, hlater⟩ hrest hpos hfuel
  rw [behindSlashes, List.length_cons] at hfuel
  obtain ⟨f, rfl⟩ : ∃ f, fuel = f + 1 := ⟨fuel - 1, by omega⟩
  have hread := h stop f later rest hlater hrest (by omega) (by omega)
  have hstarts : startsStep later = true := by
    cases s
    obtain ⟨o, _, rfl, o', _, rfl, -⟩ := hlater
    rfl
  rw [readOperand_path, readPath, if_pos hstarts, hread]
  rfl

/-- Steps from the context node. -/
theorem startsAt_relative
    (h : Reads readSteps 9 (Ends 9) (s.written ++ behindSlashes steps) (s :: steps)) :
    StartsAt 8 (.path false (s :: steps)) (s.written ++ behindSlashes steps) := by
  refine startsAt_of_reads (.inr rfl) ?_ ?_
  · cases s
    exact List.cons_ne_nil _ _
  · rintro stop fuel ts rest hts hrest hpos hfuel
    obtain ⟨f, rfl⟩ : ∃ f, fuel = f + 1 := ⟨fuel - 1, by omega⟩
    have hlen : 1 < s.written.length := by
      cases s
      simp [Step.written]
    rw [List.length_append] at hfuel
    have hread := h stop f ts rest hts hrest (by omega) (by rw [List.length_append]; omega)
    cases s
    obtain ⟨o, _, rfl, o', later, rfl, -⟩ := hts
    rw [readOperand_path, readPath, if_neg (by simp [startsPrimary, startsCall]), hread]
    · rfl
    all_goals simp

end

/-! ## Other expressions that are no operators -/

/-- **Tokens that are read as an expression to which predicates and steps can be added.** -/
structure StartsPrimary (e : Expr) (toks : List Token) : Prop where
  ne_nil : toks ≠ []
  starts : ∀ ts rest, Begins toks ts rest → startsPrimary ts
  reads : Reads readPrimary 9 (fun _ => True) toks e

section

variable {e : Expr} {es : List Expr} {steps : List Step} {toks : List Token} {ts rest : Tokens}

theorem startsPrimary_single {t : Token}
    (h : ∀ stop fuel o rest, startsPrimary ((o, t) :: rest) ∧
      readPrimary stop (fuel + 1) ((o, t) :: rest) = .ok (e, rest)) : StartsPrimary e [t] where
  ne_nil := List.cons_ne_nil _ _
  starts := by
    rintro ts rest ⟨o, later, rfl, -⟩
    exact (h 0 0 o later).1
  reads := by
    rintro stop fuel ts rest ⟨o, later, rfl, rfl⟩ - hpos -
    obtain ⟨f, rfl⟩ : ∃ f, fuel = f + 1 := ⟨fuel - 1, by omega⟩
    exact (h stop f o later).2

/-- An expression in parentheses. -/
theorem StartsAt.parenthesized (h : StartsAt 0 e toks) : StartsPrimary e (parenthesized toks) where
  ne_nil := List.cons_ne_nil _ _
  starts := by
    rintro ts rest ⟨o, later, rfl, -⟩
    rfl
  reads := by
    rintro stop fuel ts rest ⟨o, later, rfl, hlater⟩ - hpos hfuel
    obtain ⟨between, hinner, o', behind, rfl, rfl⟩ := begins_append.1 hlater
    simp only [XPath.parenthesized, List.length_cons, List.length_append] at hfuel
    obtain ⟨f, rfl⟩ : ∃ f, fuel = f + 1 := ⟨fuel - 1, by omega⟩
    have hclose : Ends 0 ((o', .closeParen) :: behind) := ends_cons (Nat.le_refl 0) o' behind
    rw [readPrimary, h.reads_level hinner hclose (by omega)]
    rfl

/-- **Predicates and steps** behind an expression. -/
theorem StartsPrimary.reads_path (h : StartsPrimary e toks)
    (hes : Reads readPredicates 0 EndsStep (inBrackets es) es)
    (hsteps : Reads readMoreSteps 8 (Ends 9) (behindSlashes steps) steps) :
    Reads readPath 8 (Ends 9) (toks ++ inBrackets es ++ behindSlashes steps)
      (if es.isEmpty && steps.isEmpty then e else .filter e es steps) := by
  intro stop fuel ts rest hts hrest hpos hfuel
  have hlen : 0 < toks.length := List.length_pos_iff.2 h.ne_nil
  simp only [List.length_append] at hfuel
  obtain ⟨f, rfl⟩ : ∃ f, fuel = f + 1 := ⟨fuel - 1, by omega⟩
  obtain ⟨behind, hprimary, hbehind⟩ := begins_append.1 hts
  obtain ⟨between, hprimary, hbetween⟩ := begins_append.1 hprimary
  have hstarts := h.starts ts between hprimary
  -- no step starts with the first token, so a primary expression is read
  have hread : readPath stop (f + 1) ts =
      readPrimary stop f ts >>= fun primary =>
      readPredicates stop f primary.2 >>= fun predicates =>
      readMoreSteps stop f predicates.2 >>= fun steps =>
      if predicates.1.isEmpty && steps.1.isEmpty then pure (primary.1, steps.2)
      else pure (.filter primary.1 predicates.1 steps.1, steps.2) := by
    rw [readPath, if_pos hstarts]
    all_goals
      rintro o later rfl
      cases hstarts
  rw [hread, h.reads stop f ts between hprimary trivial (by omega) (by omega)]
  simp only [Bind.bind, Except.bind]
  rw [hes stop f between behind hbetween (endsStep_behindSlashes hbehind hrest) (by omega) (by omega)]
  dsimp only
  rw [hsteps stop f behind rest hbehind hrest (by omega) (by omega)]
  dsimp only
  split <;> rfl

/-- An expression without predicates and steps. -/
theorem StartsPrimary.startsAt (h : StartsPrimary e toks) : StartsAt 8 e toks := by
  have hread := h.reads_path reads_inBrackets_nil reads_behindSlashes_nil
  simp only [inBrackets, behindSlashes, List.append_nil] at hread
  exact startsAt_of_reads (.inr rfl) h.ne_nil hread

/-- An expression with predicates or steps. -/
theorem StartsPrimary.filter (h : StartsPrimary e toks) (hne : es ≠ [] ∨ steps ≠ [])
    (hes : Reads readPredicates 0 EndsStep (inBrackets es) es)
    (hsteps : Reads readMoreSteps 8 (Ends 9) (behindSlashes steps) steps) :
    StartsAt 8 (.filter e es steps) (toks ++ inBrackets es ++ behindSlashes steps) := by
  have hread := h.reads_path hes hsteps
  rw [if_neg (by simpa [← not_and_or] using hne)] at hread
  refine startsAt_of_reads (.inr rfl) ?_ hread
  simp [h.ne_nil]

/-- **An operand of any level**, in parentheses where it binds looser than that. -/
theorem StartsAt.operand (h : StartsAt e.level e toks) (level : Nat) (hlevel : level ≤ 8) :
    StartsAt level e (operand level e toks) := by
  rw [XPath.operand]
  split
  · exact (h.mono (Nat.zero_le _)).parenthesized.startsAt.mono hlevel
  · next hno =>
    rw [Bool.or_eq_true, decide_eq_true_eq, not_or, Nat.not_lt] at hno
    exact h.mono hno.1

/-! ## Calls -/

/-- No expression starts with a closing parenthesis. -/
theorem readLevel_closeParen (stop fuel level o : Nat) (ts : Tokens) :
    ∃ fault, readLevel stop fuel level ((o, .closeParen) :: ts) = .error fault := by
  induction fuel generalizing level with
  | zero => exact ⟨_, rfl⟩
  | succ fuel ih =>
    rw [readLevel]
    split
    · obtain ⟨fault, herror⟩ := ih (level + 1)
      exact ⟨fault, by rw [herror]; rfl⟩
    · cases fuel with
      | zero => exact ⟨_, rfl⟩
      | succ fuel =>
        obtain ⟨fault, herror⟩ := @readPath_startsNothing stop fuel o .closeParen ts rfl
        refine ⟨fault, ?_⟩
        rw [readNegation, herror]
        · rfl
        · simp

theorem StartsAt.ne_closeParen (h : StartsAt 0 e toks) (hts : Begins toks ts rest)
    (hrest : Ends 0 rest) : ∀ o later, ts ≠ (o, .closeParen) :: later := by
  rintro o later rfl
  have hread := @StartsAt.reads_level e toks h 0 (16 * toks.length + 1) _ rest hts hrest (by omega)
  obtain ⟨fault, herror⟩ := readLevel_closeParen 0 (16 * toks.length + 1) 0 o later
  rw [herror] at hread
  cases hread

/-- What follows an argument ends it. -/
theorem ends_behindCommas (h : Begins (behindCommas es ++ [.closeParen]) ts rest) : Ends 0 ts := by
  cases es with
  | nil =>
    obtain ⟨o, later, rfl, -⟩ := h
    exact ends_cons (Nat.le_refl 0) o later
  | cons e es =>
    obtain ⟨o, later, rfl, -⟩ := h
    exact ends_cons (Nat.le_refl 0) o later

/-- The tokens of arguments with the closing parenthesis. -/
def closedArguments (es : List Expr) : List Token := (behindCommas es).tail ++ [.closeParen]

/-- **Arguments that are read**, of which there is at least one where no parenthesis closes at once. -/
structure ReadsArguments (es : List Expr) : Prop where
  starts : es ≠ [] → ∀ ts rest, Begins (closedArguments es) ts rest →
    ∀ o later, ts ≠ (o, .closeParen) :: later
  reads : es ≠ [] → Reads readArguments 0 (fun _ => True) (closedArguments es) es

theorem readsArguments_nil : ReadsArguments [] := ⟨fun h => absurd rfl h, fun h => absurd rfl h⟩

theorem readsArguments_cons (h : StartsAt 0 e e.written) (hes : ReadsArguments es) :
    ReadsArguments (e :: es) where
  starts := by
    intro _ ts rest hts
    rw [closedArguments, behindCommas, List.tail_cons, List.append_assoc] at hts
    obtain ⟨between, hargument, hbetween⟩ := begins_append.1 hts
    exact h.ne_closeParen hargument (ends_behindCommas hbetween)
  reads := by
    rintro - stop fuel ts rest hts - hpos hfuel
    rw [closedArguments, behindCommas, List.tail_cons, List.append_assoc] at hts hfuel
    obtain ⟨between, hargument, hbetween⟩ := begins_append.1 hts
    rw [List.length_append] at hfuel
    obtain ⟨f, rfl⟩ : ∃ f, fuel = f + 1 := ⟨fuel - 1, by omega⟩
    have hlen : 0 < (behindCommas es ++ [Token.closeParen]).length := by simp
    rw [readArguments, h.reads_level hargument (ends_behindCommas hbetween) (by omega)]
    -- the bracket ends the last argument, and a comma each one before it
    cases es with
    | nil =>
      obtain ⟨o, later, rfl, rfl⟩ := hbetween
      rfl
    | cons e' es =>
      obtain ⟨o, later, rfl, hlater⟩ := hbetween
      simp only [behindCommas, List.cons_append, List.length_cons] at hfuel
      have hread := hes.reads (List.cons_ne_nil _ _) stop f later rest hlater trivial (by omega)
        (by simp only [closedArguments, behindCommas, List.tail_cons]; omega)
      simp only [Bind.bind, Except.bind]
      rw [hread]
      rfl

theorem checkCall_label {f : Function} {n : Nat} (h : f.accepts n) :
    checkCall (.name none f.label) n = .ok f := by
  have hlabel : Function.ofLabel? f.label = some f := by cases f <;> decide
  rw [checkCall]
  simp only [NameTest.lastPart, hlabel, h, if_true]

/-- **A call** with as many arguments as its function takes. -/
theorem startsPrimary_call {f : Function} (h : f.accepts es.length) (hes : ReadsArguments es) :
    StartsPrimary (.call f es) (Expr.call f es).written where
  ne_nil := List.cons_ne_nil _ _
  starts := by
    rintro ts rest ⟨o, _, rfl, o', later, rfl, -⟩
    have hcall : isNodeType (.name none f.label) = false := by cases f <;> decide
    simp [startsPrimary, startsCall, hcall]
  reads := by
    rintro stop fuel ts rest ⟨o, _, rfl, o', later, rfl, hlater⟩ - hpos hfuel
    simp only [Expr.written, parenthesized, List.length_cons] at hfuel
    obtain ⟨k, rfl⟩ : ∃ k, fuel = k + 1 := ⟨fuel - 1, by omega⟩
    have hcheck := checkCall_label h
    cases es with
    | nil =>
      obtain ⟨o'', _, rfl, rfl⟩ := hlater
      rw [readPrimary]
      simp only [Bind.bind, Except.bind, pure, Except.pure, hcheck]
    | cons e es =>
      have hne := List.cons_ne_nil e es
      rw [readPrimary]
      · rw [hes.reads hne stop k later rest hlater trivial (by omega)
          (by rw [closedArguments]; omega)]
        simp only [Bind.bind, Except.bind, pure, Except.pure, hcheck]
      · exact hes.starts hne later rest hlater

end

/-! ## Expressions -/

mutual

/-- **The tokens of a well-formed expression are read as it**, at the level of its outermost
operator. -/
theorem Expr.startsAt_written : ∀ (e : Expr), e.WellFormed → StartsAt e.level e e.written
  | .or left right, ⟨hl, hr⟩ =>
    (left.startsAt_written hl |>.operand 0 (by decide)).binary rfl
      (right.startsAt_written hr |>.operand 1 (by decide))
  | .and left right, ⟨hl, hr⟩ =>
    (left.startsAt_written hl |>.operand 1 (by decide)).binary rfl
      (right.startsAt_written hr |>.operand 2 (by decide))
  | .compare op left right, ⟨hl, hr⟩ => by
    have hlevel : op.level + 1 ≤ 8 := by cases op <;> decide
    have hbuild : operator? op.level (.compare op) = some (.compare op) := by cases op <;> rfl
    exact (left.startsAt_written hl |>.operand op.level (Nat.le_of_succ_le hlevel)).binary hbuild
      (right.startsAt_written hr |>.operand (op.level + 1) hlevel)
  | .arithmetic op left right, ⟨hl, hr⟩ => by
    have hlevel : op.level + 1 ≤ 8 := by cases op <;> decide
    have hbuild : operator? op.level op.token = some (.arithmetic op) := by cases op <;> rfl
    exact (left.startsAt_written hl |>.operand op.level (Nat.le_of_succ_le hlevel)).binary hbuild
      (right.startsAt_written hr |>.operand (op.level + 1) hlevel)
  | .negate e, h => (e.startsAt_written h |>.operand 6 (by decide)).negate
  | .union left right, ⟨hl, hr⟩ =>
    (left.startsAt_written hl |>.operand 7 (by decide)).binary rfl
      (right.startsAt_written hr |>.operand 8 (by decide))
  | .path true [], _ => startsAt_root
  | .path true (s :: rest), ⟨_, hs, hrest⟩ =>
    startsAt_absolute (reads_steps (s.reads_written hs) (reads_behindSlashes rest hrest))
  | .path false [], ⟨hne, _⟩ => by simp at hne
  | .path false (s :: rest), ⟨_, hs, hrest⟩ =>
    startsAt_relative (reads_steps (s.reads_written hs) (reads_behindSlashes rest hrest))
  | .filter primary predicates steps, ⟨hne, hp, hps, hs⟩ => by
    have hprimary : StartsPrimary primary
        (if primary.isPrimary then primary.written else parenthesized primary.written) := by
      split
      · next hprimary => exact primary.startsPrimary_written hp hprimary
      · exact (primary.startsAt_written hp |>.mono (Nat.zero_le _)).parenthesized
    exact hprimary.filter hne (reads_inBrackets predicates hps) (reads_behindSlashes steps hs)
  | .literal _, _ => (startsPrimary_single fun _ _ _ _ => ⟨rfl, rfl⟩).startsAt
  | .number _, _ => (startsPrimary_single fun _ _ _ _ => ⟨rfl, rfl⟩).startsAt
  | .variable _, _ => (startsPrimary_single fun _ _ _ _ => ⟨rfl, rfl⟩).startsAt
  | .call _ es, ⟨ha, hes⟩ => (startsPrimary_call ha (readsArguments_written es hes)).startsAt

/-- An expression to which predicates and steps can be added is read so. -/
theorem Expr.startsPrimary_written : ∀ (e : Expr), e.WellFormed → e.isPrimary →
    StartsPrimary e e.written
  | .literal _, _, _ => startsPrimary_single fun _ _ _ _ => ⟨rfl, rfl⟩
  | .number _, _, _ => startsPrimary_single fun _ _ _ _ => ⟨rfl, rfl⟩
  | .variable _, _, _ => startsPrimary_single fun _ _ _ _ => ⟨rfl, rfl⟩
  | .call _ es, ⟨ha, hes⟩, _ => startsPrimary_call ha (readsArguments_written es hes)

theorem reads_inBrackets : ∀ (es : List Expr), AllWellFormed es →
    Reads readPredicates 0 EndsStep (inBrackets es) es
  | [], _ => reads_inBrackets_nil
  | e :: es, ⟨he, hes⟩ =>
    reads_inBrackets_cons (e.startsAt_written he |>.mono (Nat.zero_le _)) (reads_inBrackets es hes)

theorem readsArguments_written : ∀ (es : List Expr), AllWellFormed es → ReadsArguments es
  | [], _ => readsArguments_nil
  | e :: es, ⟨he, hes⟩ =>
    readsArguments_cons (e.startsAt_written he |>.mono (Nat.zero_le _))
      (readsArguments_written es hes)

theorem Step.reads_written : ∀ (s : Step), s.WellFormed → Reads readStep 10 EndsStep s.written s
  | .mk _ _ predicates, ⟨_, hp⟩ => reads_step (reads_inBrackets predicates hp)

theorem reads_behindSlashes : ∀ (steps : List Step), StepsWellFormed steps →
    Reads readMoreSteps 8 (Ends 9) (behindSlashes steps) steps
  | [], _ => reads_behindSlashes_nil
  | s :: rest, ⟨hs, hrest⟩ =>
    reads_behindSlashes_cons (reads_steps (s.reads_written hs) (reads_behindSlashes rest hrest))

end

/-- An expression is read from its text. -/
theorem parse_of_spaced {e : Expr} {s : String} (he : e.WellFormed)
    (hs : Spaced e.written s.toList) : Expr.parse s = .ok e := by
  obtain ⟨ts, hts, hmap⟩ := hs.scans (e.readable_written he) 0
  have hlen : ts.length = e.written.length := by rw [← hmap, List.length_map]
  have hbegins : Begins e.written ts [] := by
    rw [← hmap]
    exact begins_map ts
  have hread := @StartsAt.reads_level e e.written (e.startsAt_written he |>.mono (Nat.zero_le _))
    s.utf8ByteSize (nestingBound ts.length) ts [] hbegins (fun t ht => by cases ht)
    (by rw [nestingBound]; omega)
  rw [Expr.parse, tokens, hts]
  simp only [Bind.bind, Except.bind]
  rw [hread]
  rfl

/-- **Reading inverts writing.** A well-formed expression is read from each of its texts: its tokens,
parentheses among them only where its parts would be read otherwise, in any of their written forms
and with any blanks between them. Every well-formed expression has such a text, and whatever is read
is well formed. -/
theorem parse_inverts_writing :
    (∀ (e : Expr) (s : String), e.WellFormed → Spaced e.written s.toList → Expr.parse s = .ok e) ∧
      (∀ (s : String) (e : Expr), Expr.parse s = .ok e → e.WellFormed) ∧
      ∀ e : Expr, e.WellFormed → ∃ s : String, Spaced e.written s.toList := by
  refine ⟨fun e s he hs => parse_of_spaced he hs, fun s e h => e.wellFormed_of_parse h,
    fun e he => ?_⟩
  obtain ⟨cs, hcs⟩ := exists_spaced (e.readable_written he).whole
  exact ⟨String.ofList cs, by rwa [String.toList_ofList]⟩

/-- Subtraction is read from the left, and so its right operand is written in parentheses. -/
theorem parse_inverts_writing_subtraction :
    (Expr.arithmetic .subtract (.variable "a")
        (.arithmetic .subtract (.variable "b") (.variable "c"))).WellFormed ∧
      Expr.parse "$a - ( $b -  $c )" = .ok (.arithmetic .subtract (.variable "a")
        (.arithmetic .subtract (.variable "b") (.variable "c"))) := by
  have hwf : (Expr.arithmetic .subtract (.variable "a")
      (.arithmetic .subtract (.variable "b") (.variable "c"))).WellFormed :=
    ⟨⟨.name none "a", by decide⟩, ⟨.name none "b", by decide⟩,
      ⟨.name none "c", by decide⟩⟩
  have hblank : ∀ gap : List Char, gap.all Text.isBlank → ∀ c ∈ gap, Text.isBlank c :=
    fun _ => List.all_eq_true.1
  have hspaced : Spaced [.variable "a", .minus, .openParen, .variable "b", .minus, .variable "c",
      .closeParen] "$a - ( $b -  $c )".toList :=
    @Spaced.cons _ _ _ ['$', 'a'] [' '] _ rfl (by decide) (hblank _ (by decide)) <|
    @Spaced.cons _ _ _ ['-'] [' '] _ rfl (by decide) (hblank _ (by decide)) <|
    @Spaced.cons _ _ _ ['('] [' '] _ rfl (by decide) (hblank _ (by decide)) <|
    @Spaced.cons _ _ _ ['$', 'b'] [' '] _ rfl (by decide) (hblank _ (by decide)) <|
    @Spaced.cons _ _ _ ['-'] [' ', ' '] _ rfl (by decide) (hblank _ (by decide)) <|
    @Spaced.cons _ _ _ ['$', 'c'] [' '] _ rfl (by decide) (hblank _ (by decide)) <|
    @Spaced.single _ [')'] rfl
  exact ⟨hwf, parse_inverts_writing.1 _ _ hwf hspaced⟩

end XmlAudit.XPath
