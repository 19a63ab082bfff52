import XmlAudit.Proofs.XPath.WellFormed

/-!
# Written expressions

* `Expr.written`: the tokens of an expression as it is written, with parentheses where its parts
  would be read otherwise.
* `Readable`: tokens that are told apart where they stand.
* `Expr.readable_written`: the tokens of a well-formed expression are readable.
-/

namespace XmlAudit.XPath

/-! ## The tokens of an expression -/

/-- How tight a comparison binds: that of equality is looser. -/
def Comparison.level : Comparison → Nat
  | eq | ne => 2
  | lt | le | gt | ge => 3

/-- How tight an arithmetic operator binds. -/
def Arithmetic.level : Arithmetic → Nat
  | add | subtract => 4
  | multiply | divide | modulo => 5

/-- The sign or word of an arithmetic operator. -/
def Arithmetic.token : Arithmetic → Token
  | add => .plus
  | subtract => .minus
  | multiply => .multiply
  | divide => .div
  | modulo => .mod

/-- How tight the outermost operator of an expression binds: from `or` at 0 to unions at 7, and 8 for
paths and all else that has no operator. -/
def Expr.level : Expr → Nat
  | .or _ _ => 0
  | .and _ _ => 1
  | .compare op _ _ => op.level
  | .arithmetic op _ _ => op.level
  | .negate _ => 6
  | .union _ _ => 7
  | _ => 8

/-- The root by itself, behind which a name or a star would be read as a step. -/
def Expr.isRoot : Expr → Bool
  | .path true [] => true
  | _ => false

/-- Whether predicates and steps can follow an expression as it is. -/
def Expr.isPrimary : Expr → Bool
  | .literal _ | .number _ | .variable _ | .call _ _ => true
  | _ => false

/-- Tokens in parentheses. -/
def parenthesized (ts : List Token) : List Token := .openParen :: (ts ++ [.closeParen])

/-- The tokens of an expression where it is an operand of something that binds at a level: in
parentheses if it binds looser or is the root. -/
def operand (level : Nat) (e : Expr) (ts : List Token) : List Token :=
  if e.level < level || e.isRoot then parenthesized ts else ts

/-- The tokens of a node test. -/
def NodeTest.written : NodeTest → List Token
  | named test => [.name test]
  | node => [.name (.name none "node"), .openParen, .closeParen]
  | text => [.name (.name none "text"), .openParen, .closeParen]

mutual

/-- **The tokens of an expression**, with the axis of every step. Operators of a level are read from
the left, so the right operand has to bind tighter. -/
def Expr.written : Expr → List Token
  | .or left right => operand 0 left left.written ++ .or :: operand 1 right right.written
  | .and left right => operand 1 left left.written ++ .and :: operand 2 right right.written
  | .compare op left right =>
    operand op.level left left.written ++ .compare op ::
      operand (op.level + 1) right right.written
  | .arithmetic op left right =>
    operand op.level left left.written ++ op.token :: operand (op.level + 1) right right.written
  | .negate e => .minus :: operand 6 e e.written
  | .union left right => operand 7 left left.written ++ .pipe :: operand 8 right right.written
  | .path absolute steps =>
    if absolute then if steps.isEmpty then [.slash] else behindSlashes steps
    else (behindSlashes steps).tail
  | .filter primary predicates steps =>
    (if primary.isPrimary then primary.written else parenthesized primary.written) ++
      inBrackets predicates ++ behindSlashes steps
  | .literal s => [.literal s]
  | .number x => [.number x]
  | .variable s => [.variable s]
  | .call f arguments =>
    .name (.name none f.label) :: parenthesized (behindCommas arguments).tail

/-- The tokens of predicates. -/
def inBrackets : List Expr → List Token
  | [] => []
  | e :: es => .openBracket :: (e.written ++ .closeBracket :: inBrackets es)

/-- The tokens of arguments, each behind a comma. -/
def behindCommas : List Expr → List Token
  | [] => []
  | e :: es => .comma :: (e.written ++ behindCommas es)

/-- The tokens of a step. -/
def Step.written : Step → List Token
  | .mk axis test predicates =>
    .name (.name none axis.name) :: .axisMark :: (test.written ++ inBrackets predicates)

/-- The tokens of steps, each behind a slash. -/
def behindSlashes : List Step → List Token
  | [] => []
  | s :: rest => .slash :: (s.written ++ behindSlashes rest)

end

/-! ## Tokens where they stand -/

/-- Whether a token can stand behind an operand, or where an operand starts. -/
def Token.fits (behindOperand : Bool) : Token → Bool
  | .name _ => !behindOperand
  | .and | .or | .div | .mod | .multiply => behindOperand
  | _ => true

/-- **Tokens that are told apart where they stand**: names where operands start, and operators that
look like names behind operands. What stands before and behind the tokens ends an operand or not. -/
def Readable : Bool → List Token → Bool → Prop
  | before, [], behind => before = behind
  | before, t :: ts, behind => (t.Whole ∧ t.fits before) ∧ Readable t.endsOperand ts behind

theorem readable_append {ts us : List Token} {before behind : Bool} :
    Readable before (ts ++ us) behind ↔
      ∃ between, Readable before ts between ∧ Readable between us behind := by
  induction ts generalizing before with
  | nil => simp [Readable]
  | cons t ts ih => simp [Readable, ih, and_assoc]

theorem Readable.append {ts us : List Token} {before between behind : Bool}
    (h : Readable before ts between) (h' : Readable between us behind) :
    Readable before (ts ++ us) behind :=
  readable_append.2 ⟨between, h, h'⟩

theorem Readable.whole {ts : List Token} {before behind : Bool} (h : Readable before ts behind) :
    ∀ t ∈ ts, t.Whole := by
  induction ts generalizing before with
  | nil => simp
  | cons t ts ih => exact List.forall_mem_cons.2 ⟨h.1.1, ih h.2⟩

theorem Readable.parenthesized {ts : List Token} {before behind : Bool}
    (h : Readable false ts behind) : Readable before (parenthesized ts) true :=
  ⟨⟨trivial, rfl⟩, h.append ⟨⟨trivial, rfl⟩, rfl⟩⟩

/-- An operand ends an operand. -/
theorem Readable.operand {e : Expr} (h : Readable false e.written !e.isRoot) (level : Nat) :
    Readable false (operand level e e.written) true := by
  rw [XPath.operand]
  split
  · exact h.parenthesized
  · next hno =>
    have hroot : e.isRoot = false := by simp at hno; exact hno.2
    rwa [hroot] at h

/-- An operator between two operands. -/
theorem Readable.between {left right : List Token} {t : Token} (hl : Readable false left true)
    (ht : t.Whole) (hfits : t.fits true) (hends : t.endsOperand = false)
    (hr : Readable false right true) : Readable false (left ++ t :: right) true := by
  refine hl.append ⟨⟨ht, hfits⟩, ?_⟩
  rw [hends]
  exact hr

/-! ## The tokens of well-formed expressions -/

theorem isNameStart_of_isLower {c : Char} (h : c.isLower) : isNameStart c := by
  simp [isNameStart, Text.isLetter, Char.isAlpha, h]

theorem isNameChar_of_isNameStart {c : Char} (h : isNameStart c) : isNameChar c := by
  rw [isNameStart, Bool.or_eq_true] at h
  simp only [isNameChar, Text.isAlphanumeric, Bool.or_eq_true]
  tauto

/-- Small letters with hyphens between them are a name. -/
theorem isName_of_isLower {cs : List Char} (hhead : cs.head?.any Char.isLower)
    (hall : cs.all fun c => c.isLower || c = '-') : IsName cs := by
  cases cs with
  | nil => cases hhead
  | cons c rest =>
    refine isName_iff.2 ⟨c, rest, rfl, isNameStart_of_isLower hhead, fun a ha => ?_⟩
    have hword := List.all_eq_true.1 hall a ha
    rw [Bool.or_eq_true, decide_eq_true_eq] at hword
    rcases hword with hlower | rfl
    · exact isNameChar_of_isNameStart (isNameStart_of_isLower hlower)
    · simp [isNameChar]

theorem Axis.isName (a : Axis) : IsName a.name.toList := by
  cases a <;> exact isName_of_isLower (by decide) (by decide)

theorem Function.isName (f : Function) : IsName f.label.toList := by
  cases f <;> exact isName_of_isLower (by decide) (by decide)

/-- A name without colon is a whole token. -/
theorem whole_of_isName {s : String} (h : IsName s.toList) : (Token.name (.name none s)).Whole :=
  ⟨h, fun p hp => by cases hp⟩

theorem NodeTest.readable_written {test : NodeTest} (h : test.Whole) :
    Readable false test.written true := by
  cases test with
  | named test => exact ⟨⟨h, rfl⟩, rfl⟩
  | node =>
    have hname : IsName "node".toList := isName_of_isLower (by decide) (by decide)
    exact ⟨⟨whole_of_isName hname, rfl⟩, ⟨trivial, rfl⟩, ⟨trivial, rfl⟩, rfl⟩
  | text =>
    have hname : IsName "text".toList := isName_of_isLower (by decide) (by decide)
    exact ⟨⟨whole_of_isName hname, rfl⟩, ⟨trivial, rfl⟩, ⟨trivial, rfl⟩, rfl⟩

theorem Arithmetic.token_readable (op : Arithmetic) :
    op.token.Whole ∧ op.token.fits true ∧ op.token.endsOperand = false := by
  cases op <;> exact ⟨trivial, rfl, rfl⟩

/-- Steps behind slashes, without the first slash, start where a name can stand. -/
theorem Readable.tail {t : Token} {ts : List Token} {before behind : Bool}
    (h : Readable before (t :: ts) behind) (ht : t.endsOperand = false) :
    Readable false ts behind := by
  rw [← ht]
  exact h.2

mutual

/-- **The tokens of a well-formed expression are readable** and end an operand, unless it is the
root. -/
theorem Expr.readable_written : ∀ (e : Expr), e.WellFormed → Readable false e.written !e.isRoot
  | .or left right, ⟨hl, hr⟩ =>
    (left.readable_written hl |>.operand 0).between trivial rfl rfl
      (right.readable_written hr |>.operand 1)
  | .and left right, ⟨hl, hr⟩ =>
    (left.readable_written hl |>.operand 1).between trivial rfl rfl
      (right.readable_written hr |>.operand 2)
  | .compare op left right, ⟨hl, hr⟩ =>
    (left.readable_written hl |>.operand op.level).between trivial rfl rfl
      (right.readable_written hr |>.operand (op.level + 1))
  | .arithmetic op left right, ⟨hl, hr⟩ =>
    (left.readable_written hl |>.operand op.level).between op.token_readable.1 op.token_readable.2.1
      op.token_readable.2.2 (right.readable_written hr |>.operand (op.level + 1))
  | .negate operand, h => ⟨⟨trivial, rfl⟩, operand.readable_written h |>.operand 6⟩
  | .union left right, ⟨hl, hr⟩ =>
    (left.readable_written hl |>.operand 7).between trivial rfl rfl
      (right.readable_written hr |>.operand 8)
  | .path true [], _ => ⟨⟨trivial, rfl⟩, rfl⟩
  | .path true (s :: rest), ⟨_, hs⟩ => readable_behindSlashes (s :: rest) hs false (.inr (by simp))
  | .path false [], ⟨hne, _⟩ => by simp at hne
  | .path false (s :: rest), ⟨_, hs⟩ =>
    (readable_behindSlashes (s :: rest) hs false (.inr (by simp))).tail rfl
  | .filter primary predicates steps, ⟨_, hp, hps, hs⟩ => by
    have hprimary : Readable false
        (if primary.isPrimary then primary.written else parenthesized primary.written) true := by
      split
      · next hprimary =>
        have hroot : primary.isRoot = false := by cases primary <;> first | rfl | cases hprimary
        have hread := primary.readable_written hp
        rwa [hroot] at hread
      · exact (primary.readable_written hp).parenthesized
    exact (hprimary.append (readable_inBrackets predicates hps)).append
      (readable_behindSlashes steps hs true (.inl rfl))
  | .literal s, h => ⟨⟨h, rfl⟩, rfl⟩
  | .number x, h => ⟨⟨h, rfl⟩, rfl⟩
  | .variable s, h => ⟨⟨h, rfl⟩, rfl⟩
  | .call f [], _ => ⟨⟨whole_of_isName f.isName, rfl⟩, ⟨trivial, rfl⟩, ⟨trivial, rfl⟩, rfl⟩
  | .call f (e :: es), ⟨_, hes⟩ => by
    obtain ⟨behind, hread⟩ := readable_behindCommas (e :: es) hes true
    exact ⟨⟨whole_of_isName f.isName, rfl⟩, (hread.tail rfl).parenthesized⟩

theorem readable_inBrackets : ∀ (es : List Expr), AllWellFormed es →
    Readable true (inBrackets es) true
  | [], _ => rfl
  | e :: es, ⟨he, hes⟩ =>
    ⟨⟨trivial, rfl⟩,
      (e.readable_written he).append ⟨⟨trivial, rfl⟩, readable_inBrackets es hes⟩⟩

theorem readable_behindCommas : ∀ (es : List Expr), AllWellFormed es →
    ∀ before, ∃ behind, Readable before (behindCommas es) behind
  | [], _, before => ⟨before, rfl⟩
  | e :: es, ⟨he, hes⟩, _ => by
    obtain ⟨behind, hread⟩ := readable_behindCommas es hes !e.isRoot
    exact ⟨behind, ⟨trivial, rfl⟩, (e.readable_written he).append hread⟩

theorem Step.readable_written : ∀ (s : Step), s.WellFormed → Readable false s.written true
  | .mk axis _ predicates, ⟨ht, hp⟩ =>
    ⟨⟨whole_of_isName axis.isName, rfl⟩, ⟨trivial, rfl⟩,
      (NodeTest.readable_written ht).append (readable_inBrackets predicates hp)⟩

theorem readable_behindSlashes : ∀ (steps : List Step), StepsWellFormed steps →
    ∀ before, before = true ∨ steps ≠ [] → Readable before (behindSlashes steps) true
  | [], _, before, h => by simpa [behindSlashes, Readable] using h
  | s :: rest, ⟨hs, hrest⟩, _, _ =>
    ⟨⟨trivial, rfl⟩, (s.readable_written hs).append
      (readable_behindSlashes rest hrest true (.inl rfl))⟩

end

end XmlAudit.XPath
