import XmlAudit.Proofs.XPath.Writing

/-!
# Spelled tokens

* `Token.Spelled`, `Spaced`: a written token, and written tokens with blanks between them.
* `Token.Spelled.scansWord`: a written token is scanned as it is.
* `ScansTo`: the tokens with which a text starts, whatever is behind them.
* `Spaced.scans`: readable tokens with blanks between them are scanned as they are.
-/

namespace XmlAudit.XPath

/-! ## Texts -/

/-- **The written forms of a token.** A text stands between two quotes that do not occur in it, and a
number is any decimal that reads as it. -/
def Token.Spelled : Token → List Char → Prop
  | slash, cs => cs = ['/']
  | doubleSlash, cs => cs = ['/', '/']
  | pipe, cs => cs = ['|']
  | plus, cs => cs = ['+']
  | minus, cs => cs = ['-']
  | compare .eq, cs => cs = ['=']
  | compare .ne, cs => cs = ['!', '=']
  | compare .lt, cs => cs = ['<']
  | compare .le, cs => cs = ['<', '=']
  | compare .gt, cs => cs = ['>']
  | compare .ge, cs => cs = ['>', '=']
  | openParen, cs => cs = ['(']
  | closeParen, cs => cs = [')']
  | openBracket, cs => cs = ['[']
  | closeBracket, cs => cs = [']']
  | dot, cs => cs = ['.']
  | twoDots, cs => cs = ['.', '.']
  | atSign, cs => cs = ['@']
  | comma, cs => cs = [',']
  | axisMark, cs => cs = [':', ':']
  | multiply, cs => cs = ['*']
  | and, cs => cs = ['a', 'n', 'd']
  | or, cs => cs = ['o', 'r']
  | div, cs => cs = ['d', 'i', 'v']
  | mod, cs => cs = ['m', 'o', 'd']
  | literal s, cs => ∃ quote, (quote = '"' ∨ quote = '\'') ∧ quote ∉ s.toList ∧
      cs = quote :: (s.toList ++ [quote])
  | number x, cs => IsDecimal cs ∧ Number.Decimal.read false cs = x
  | .variable s, cs => cs = '$' :: s.toList
  | name test, cs => cs = test.render.toList

/-- **Written tokens with blanks between them.** -/
inductive Spaced : List Token → List Char → Prop
  | nil : Spaced [] []
  | single {t word} (h : t.Spelled word) : Spaced [t] word
  | cons {t t' ts word gap rest} (h : t.Spelled word) (hne : gap ≠ [])
    (hgap : ∀ c ∈ gap, Text.isBlank c) (hrest : Spaced (t' :: ts) rest) :
    Spaced (t :: t' :: ts) (word ++ gap ++ rest)

/-- A token that can be written has a written form. -/
theorem Token.Whole.exists_spelled {t : Token} (h : t.Whole) : ∃ word, t.Spelled word := by
  cases t with
  | literal s =>
    rcases h with h | h
    · exact ⟨_, _, .inl rfl, h, rfl⟩
    · exact ⟨_, _, .inr rfl, h, rfl⟩
  | number x => exact h
  | compare op => cases op <;> exact ⟨_, rfl⟩
  | _ => exact ⟨_, rfl⟩

theorem exists_spaced {ts : List Token} (h : ∀ t ∈ ts, t.Whole) : ∃ cs, Spaced ts cs := by
  induction ts with
  | nil => exact ⟨[], .nil⟩
  | cons t ts ih =>
    obtain ⟨ht, hts⟩ := List.forall_mem_cons.1 h
    obtain ⟨word, hword⟩ := ht.exists_spelled
    obtain ⟨rest, hrest⟩ := ih hts
    cases ts with
    | nil => exact ⟨word, .single hword⟩
    | cons t' ts =>
      have hblank : ∀ c ∈ [' '], Text.isBlank c := by
        intro c hc
        cases List.mem_singleton.1 hc
        decide
      exact ⟨_, .cons hword (List.cons_ne_nil _ _) hblank hrest⟩

/-! ## Scanning -/

/-- What stands behind a written token: a blank or nothing. -/
def EndsToken (rest : List Char) : Prop := ∀ c ∈ rest.head?, Text.isBlank c

section

variable {behindOperand : Bool} {word rest : List Char} {t : Token}

theorem EndsToken.endsName (h : EndsToken rest) : EndsName rest := by
  intro c hc
  rw [Bool.eq_false_iff]
  intro hname
  have hblank := h c hc
  rw [isBlank_of_isNameChar (.inr hname)] at hblank
  cases hblank

/-- What is no blank does not stand behind a written token. -/
theorem EndsToken.head?_ne (h : EndsToken rest) {c : Char} (hc : Text.isBlank c = false) :
    rest.head? ≠ some c := by
  intro heq
  have hblank := h c heq
  rw [hc] at hblank
  cases hblank

/-- The first character of a number: a digit, or a point with a digit behind it. -/
theorem IsDecimal.exists_cons {cs : List Char} (h : IsDecimal cs) :
    ∃ c tail, cs = c :: tail ∧
      (c.isDigit ∨ c = '.' ∧ ∃ d later, tail = d :: later ∧ d.isDigit) := by
  obtain ⟨whole, places, hall, hne, hcs⟩ := h
  cases whole with
  | cons d whole =>
    have hd : d.isDigit := hall d List.mem_cons_self
    rcases hcs with ⟨rfl, -⟩ | rfl
    · exact ⟨d, whole, rfl, .inl hd⟩
    · exact ⟨d, _, rfl, .inl hd⟩
  | nil =>
    cases places with
    | nil => exact absurd rfl hne
    | cons d places =>
      have hd : d.isDigit := hall d List.mem_cons_self
      rcases hcs with ⟨-, hno⟩ | rfl
      · cases hno
      · exact ⟨'.', _, rfl, .inr ⟨rfl, d, places, rfl, hd⟩⟩

/-- **A number is read whole** before what ends a name. -/
theorem leadingNumber_append (h : IsDecimal word) (hrest : EndsName rest) :
    leadingNumber false (word ++ rest) = word := by
  obtain ⟨whole, places, hall, -, hcs⟩ := h
  have hdigit : ∀ c ∈ rest.head?, c.isDigit = false := fun c hc => by
    rw [Bool.eq_false_iff]
    intro hd
    exact Bool.eq_false_iff.1 (hrest c hc) (isNameChar_of_isDigit hd)
  have hpoint : rest.head? ≠ some '.' := by
    intro hc
    exact absurd (hrest '.' hc) (by simp [isNameChar])
  -- digits are read up to what is behind them
  have hwhole : ∀ ds behind : List Char, (∀ c ∈ ds, c.isDigit) →
      leadingNumber false (ds ++ behind) = ds ++ leadingNumber false behind := by
    intro ds behind hds
    induction ds with
    | nil => rfl
    | cons d ds ih =>
      obtain ⟨hd, hds⟩ := List.forall_mem_cons.1 hds
      rw [List.cons_append, leadingNumber, if_pos hd, ih hds, List.cons_append]
  obtain ⟨hw, hp⟩ := List.forall_mem_append.1 hall
  rcases hcs with ⟨rfl, rfl⟩ | rfl
  · rw [hwhole _ _ hw]
    cases rest with
    | nil => simp [leadingNumber]
    | cons c rest =>
      have hc : c ≠ '.' := fun hc => hpoint (congrArg some hc)
      simp [leadingNumber, hdigit c rfl, hc]
  · have hplaces : (places ++ rest).takeWhile Char.isDigit = places := by
      rw [List.takeWhile_append_of_pos hp]
      cases rest with
      | nil => simp
      | cons c rest => rw [List.takeWhile_cons_of_neg (by simp [hdigit c rfl]), List.append_nil]
    have hnext : (places ++ rest).head? ≠ some '.' := by
      cases places with
      | nil => exact hpoint
      | cons d places =>
        rintro heq
        cases heq
        exact absurd (hp '.' List.mem_cons_self) (by decide)
    have hnodigit : ('.' : Char).isDigit = false := by decide
    rw [List.append_assoc, List.cons_append, hwhole _ _ hw, leadingNumber, if_neg (by simp [hnodigit]),
      if_pos ⟨rfl, rfl, hnext⟩, leadingNumber_true, hplaces]

/-- A text between two quotes that do not occur in it. -/
theorem literalToken_append {quote : Char} {s : String} (h : quote ∉ s.toList) :
    literalToken quote (s.toList ++ quote :: rest) = .ok (.literal s, s.toList.length + 2) := by
  have htake : (s.toList ++ quote :: rest).takeWhile (· ≠ quote) = s.toList := by
    rw [List.takeWhile_append_of_pos, List.takeWhile_cons_of_neg (by simp), List.append_nil]
    intro c hc
    rw [decide_eq_true_eq]
    rintro rfl
    exact h hc
  have hlen : s.toList.length ≠ (s.toList ++ quote :: rest).length := by simp
  rw [literalToken]
  simp only [htake, if_neg hlen, String.ofList_toList]

/-- A name test that starts with a name does so in its written form. -/
theorem NameTest.Named.toList_render {test : NameTest} (hn : test.Named) (h : test.Whole) :
    ∃ c tail, test.render.toList = c :: tail ∧ isNameStart c := by
  have hstart : ∀ {q : String} (later : String), IsName q.toList →
      ∃ c tail, (q ++ later).toList = c :: tail ∧ isNameStart c := by
    intro q later hq
    obtain ⟨c, tail, hcs, hc, -⟩ := isName_iff.1 hq
    exact ⟨c, tail ++ later.toList, by rw [String.toList_append, hcs]; rfl, hc⟩
  cases test with
  | any | anywhere => cases hn
  | anyIn q => exact hstart ":*" h
  | name q l =>
    cases q with
    | none =>
      obtain ⟨c, tail, hcs, hc, -⟩ := isName_iff.1 h.1
      exact ⟨c, tail, hcs, hc⟩
    | some q =>
      rw [NameTest.render, String.append_assoc]
      exact hstart _ (h.2 q rfl)

/-- The scan of a word: its first character is no blank, and all of it is one token. -/
def ScansWord (behindOperand : Bool) (word rest : List Char) (t : Token) : Prop :=
  ∃ c tail, word = c :: tail ∧ Text.isBlank c = false ∧
    Token.scan behindOperand c (tail ++ rest) = .ok (t, tail.length + 1)

/-- A slash is one word before anything but another one. -/
theorem scansWord_slash (hrest : rest.head? ≠ some '/') :
    ScansWord behindOperand ['/'] rest .slash := by
  refine ⟨'/', [], rfl, by decide, ?_⟩
  unfold Token.scan
  split <;> simp_all

/-- **A name is one word**, or an operator behind an operand. -/
theorem scansWord_name {test : NameTest} (hn : test.Named) (h : test.Whole)
    (hrest : EndsName rest) (hcolon : rest.head? ≠ some ':') :
    ScansWord behindOperand test.render.toList rest (nameToken behindOperand test) := by
  obtain ⟨c, tail, hcs, hc⟩ := hn.toList_render h
  have hname := leadingQName?_render hn h hrest hcolon
  rw [hcs] at hname
  exact ⟨c, tail, hcs, isBlank_of_isNameChar (.inl hc), scan_of_isNameStart hc hname⟩

/-- A name behind a qualifier is one word with it, whatever sign is behind. -/
theorem scansWord_qualified {q l : String} (hq : IsName q.toList) (hl : IsName l.toList)
    (hrest : EndsName rest) :
    ScansWord false (q.toList ++ ':' :: l.toList) rest (.name (.name (some q) l)) := by
  have hname := leadingQName?_qualified hq hl hrest
  obtain ⟨c, tail, hcs, hc, -⟩ := isName_iff.1 hq
  rw [hcs] at hname ⊢
  refine ⟨c, tail ++ ':' :: l.toList, rfl, isBlank_of_isNameChar (.inl hc), ?_⟩
  have hscan := @scan_of_isNameStart false _ _ _ _ hc hname
  have hlength : (c :: tail).length + 1 + l.toList.length = (tail ++ ':' :: l.toList).length + 1 := by
    simp only [List.length_cons, List.length_append]
    omega
  rw [hlength] at hscan
  simpa [nameToken] using hscan

/-- A star is a name test where no operand ends. -/
theorem scansWord_star {test : NameTest} (hn : ¬test.Named) (h : test.Whole)
    (hrest : EndsName rest) (hcolon : rest.head? ≠ some ':') :
    ScansWord false test.render.toList rest (.name test) := by
  cases test with
  | name | anyIn => exact absurd trivial hn
  | any =>
    refine ⟨'*', [], rfl, by decide, ?_⟩
    rw [List.nil_append]
    change Except.ok (starToken false rest) = _
    rw [starToken]
    · rfl
    · rintro later rfl
      exact hcolon rfl
  | anywhere l =>
    have hpart := leadingName_append h hrest
    refine ⟨'*', ':' :: l.toList, by simp [NameTest.render], by decide, ?_⟩
    change Except.ok (starToken false (':' :: (l.toList ++ rest))) = _
    simp [starToken, hpart, h.1]

/-- **A name test is one word** where an operand may start. -/
theorem scansWord_test {test : NameTest} (h : test.Whole) (hrest : EndsName rest)
    (hcolon : rest.head? ≠ some ':') : ScansWord false test.render.toList rest (.name test) := by
  by_cases hn : test.Named
  · exact scansWord_name hn h hrest hcolon
  · exact scansWord_star hn h hrest hcolon

theorem scansWord_number (h : IsDecimal word) (hrest : EndsName rest) :
    ScansWord behindOperand word rest (.number (Number.Decimal.read false word)) := by
  have hnumber := leadingNumber_append h hrest
  obtain ⟨c, tail, rfl, hc⟩ := h.exists_cons
  rw [List.cons_append] at hnumber
  have hstart : c.isDigit || (c = '.' && ((tail ++ rest).head?.map Char.isDigit).getD false) := by
    rcases hc with hc | ⟨rfl, d, later, rfl, hd⟩
    · simp [hc]
    · simp [hd]
  refine ⟨c, tail, rfl, ?_, ?_⟩
  · rcases hc with hc | ⟨rfl, -⟩
    · exact isBlank_of_isNameChar (.inr (isNameChar_of_isDigit hc))
    · decide
  · have htoken : numberToken (c :: (tail ++ rest)) =
        (.number (Number.Decimal.read false (c :: tail)), tail.length + 1) := by
      rw [numberToken, hnumber]
      rfl
    unfold Token.scan
    rcases hc with hd | ⟨rfl, d, later, rfl, hd⟩
    · split <;> first | exact absurd hd (by decide) | skip
      rw [if_pos hstart, htoken]
    · have hpoint : d ≠ '.' := by
        rintro rfl
        exact absurd hd (by decide)
      split <;> simp_all

/-- Small letters that are an operator behind an operand. -/
theorem scansWord_operator {s : String} (hne : s.toList.head?.any Char.isLower)
    (hlower : s.toList.all fun c => c.isLower || c = '-') (hrest : EndsToken rest) :
    ScansWord true s.toList rest (nameToken true (.name none s)) := by
  have hwhole : (NameTest.name none s).Whole := whole_of_isName (isName_of_isLower hne hlower)
  have hnamed : (NameTest.name none s).Named := trivial
  exact scansWord_name hnamed hwhole hrest.endsName (hrest.head?_ne (by decide))

/-- **A written token is scanned as it is** before a blank, where it can stand. -/
theorem Token.Spelled.scansWord (hspelled : t.Spelled word) (hwhole : t.Whole)
    (hfits : t.fits behindOperand) (hrest : EndsToken rest) :
    ScansWord behindOperand word rest t := by
  cases t with
  | slash =>
    cases hspelled
    exact scansWord_slash (hrest.head?_ne (by decide))
  | dot =>
    cases hspelled
    have hnext : rest.head? ≠ some '.' := hrest.head?_ne (by decide)
    have hdigit : (rest.head?.map Char.isDigit).getD false = false := by
      cases rest with
      | nil => rfl
      | cons c rest =>
        rw [Bool.eq_false_iff]
        intro hd
        exact Bool.eq_false_iff.1 (hrest.endsName c rfl) (isNameChar_of_isDigit hd)
    refine ⟨'.', [], rfl, by decide, ?_⟩
    unfold Token.scan
    split <;> simp_all
  | compare op =>
    have hnext : rest.head? ≠ some '=' := hrest.head?_ne (by decide)
    cases op with
    | lt =>
      cases hspelled
      refine ⟨'<', [], rfl, by decide, ?_⟩
      unfold Token.scan
      split <;> simp_all
    | gt =>
      cases hspelled
      refine ⟨'>', [], rfl, by decide, ?_⟩
      unfold Token.scan
      split <;> simp_all
    | _ =>
      cases hspelled
      exact ⟨_, _, rfl, by decide, rfl⟩
  | and =>
    cases hspelled
    cases (show behindOperand = true from hfits)
    exact @scansWord_operator rest "and" (by decide) (by decide) hrest
  | or =>
    cases hspelled
    cases (show behindOperand = true from hfits)
    exact @scansWord_operator rest "or" (by decide) (by decide) hrest
  | div =>
    cases hspelled
    cases (show behindOperand = true from hfits)
    exact @scansWord_operator rest "div" (by decide) (by decide) hrest
  | mod =>
    cases hspelled
    cases (show behindOperand = true from hfits)
    exact @scansWord_operator rest "mod" (by decide) (by decide) hrest
  | multiply =>
    cases hspelled
    cases (show behindOperand = true from hfits)
    exact ⟨'*', [], rfl, by decide, rfl⟩
  | literal s =>
    obtain ⟨quote, hquote, hnot, rfl⟩ := hspelled
    have htoken := @literalToken_append rest quote s hnot
    refine ⟨quote, _, rfl, ?_, ?_⟩
    · rcases hquote with rfl | rfl <;> decide
    · rw [List.append_assoc, List.singleton_append, List.length_append, List.length_singleton]
      rcases hquote with rfl | rfl
      · exact htoken
      · exact htoken
  | number x =>
    obtain ⟨hdecimal, rfl⟩ := hspelled
    exact scansWord_number hdecimal hrest.endsName
  | «variable» s =>
    cases hspelled
    obtain ⟨test, hname⟩ := hwhole
    obtain ⟨hnamed, htest, hlen, hprefix⟩ := leadingQName?_eq_some hname
    have hs : test.render.toList = s.toList := hprefix.eq_of_length hlen
    have hread := leadingQName?_render hnamed htest hrest.endsName (hrest.head?_ne (by decide))
    refine ⟨'$', s.toList, rfl, by decide, ?_⟩
    rw [hs] at hread
    unfold Token.scan
    simp [hread, String.toList_inj.1 hs]
  | name test =>
    cases hspelled
    cases (show behindOperand = false by simpa [fits] using hfits)
    exact scansWord_test hwhole hrest.endsName (hrest.head?_ne (by decide))
  | _ =>
    cases hspelled
    exact ⟨_, _, rfl, by decide, rfl⟩

/-- Blanks are skipped. -/
theorem Scans.blank {gap : List Char} {ts : List Token} (hgap : ∀ c ∈ gap, Text.isBlank c)
    (h : Scans behindOperand rest ts) : Scans behindOperand (gap ++ rest) ts := by
  induction gap with
  | nil => exact h
  | cons c gap ih =>
    obtain ⟨hc, hgap⟩ := List.forall_mem_cons.1 hgap
    intro offset
    obtain ⟨os, hos, hmap⟩ := ih hgap (offset + c.utf8Size)
    refine ⟨os, ?_, hmap⟩
    rw [List.cons_append, tokensFrom, if_pos hc, hos]

/-- A text starts with some tokens, and what is behind them is scanned as `behind` tells. -/
def ScansTo (behindOperand : Bool) (cs rest : List Char) (ts : List Token) (behind : Bool) : Prop :=
  ∀ offset, ∃ os offset', tokensFrom behindOperand 0 offset cs =
    (tokensFrom behind 0 offset' rest).map (os ++ ·) ∧ os.map (·.2) = ts

/-- A text of which not all is tokens. -/
def Unscannable (behindOperand : Bool) (cs : List Char) : Prop :=
  ∀ offset, ∃ e, tokensFrom behindOperand 0 offset cs = .error e

theorem ScansWord.scansTo (h : ScansWord behindOperand word rest t) :
    ScansTo behindOperand (word ++ rest) rest [t] t.endsOperand := by
  obtain ⟨c, tail, rfl, hblank, hscan⟩ := h
  intro offset
  obtain ⟨offset', hskip⟩ := tokensFrom_skip t.endsOperand tail rest (offset + c.utf8Size)
  refine ⟨[(offset, t)], offset', ?_, rfl⟩
  rw [List.cons_append, tokensFrom, hblank]
  simp only [Bool.false_eq_true, if_false, hscan, Nat.add_sub_cancel, hskip]
  rfl

theorem ScansTo.trans {cs later : List Char} {ts us : List Token} {between behind : Bool}
    (h : ScansTo behindOperand cs later ts between) (h' : ScansTo between later rest us behind) :
    ScansTo behindOperand cs rest (ts ++ us) behind := by
  intro offset
  obtain ⟨os, offset', hos, hts⟩ := h offset
  obtain ⟨os', offset'', hos', hus⟩ := h' offset'
  refine ⟨os ++ os', offset'', ?_, by rw [List.map_append, hts, hus]⟩
  rw [hos, hos']
  cases tokensFrom behind 0 offset'' rest <;> simp [Except.map]

theorem ScansTo.scans {cs : List Char} {ts us : List Token} {behind : Bool}
    (h : ScansTo behindOperand cs rest ts behind) (h' : Scans behind rest us) :
    Scans behindOperand cs (ts ++ us) := by
  intro offset
  obtain ⟨os, offset', hos, hts⟩ := h offset
  obtain ⟨os', hos', hus⟩ := h' offset'
  refine ⟨os ++ os', ?_, by rw [List.map_append, hts, hus]⟩
  rw [hos, hos']
  rfl

/-- Where a text cannot be scanned behind its first tokens, it cannot be at all. -/
theorem ScansTo.unscannable {cs : List Char} {ts : List Token} {behind : Bool}
    (h : ScansTo behindOperand cs rest ts behind) (h' : Unscannable behind rest) :
    Unscannable behindOperand cs := by
  intro offset
  obtain ⟨os, offset', hos, -⟩ := h offset
  obtain ⟨e, he⟩ := h' offset'
  refine ⟨e, ?_⟩
  rw [hos, he]
  rfl

theorem ScansWord.scans {ts : List Token} (h : ScansWord behindOperand word rest t)
    (hrest : Scans t.endsOperand rest ts) : Scans behindOperand (word ++ rest) (t :: ts) :=
  h.scansTo.scans hrest

/-- **Readable tokens with blanks between them are scanned as they are.** -/
theorem Spaced.scans {ts : List Token} {cs : List Char} (h : Spaced ts cs) {before behind : Bool}
    (hread : Readable before ts behind) : Scans before cs ts := by
  induction h generalizing before with
  | nil => exact scans_nil before
  | @single t word hspelled =>
    have hends : EndsToken [] := fun c hc => by cases hc
    have hword := hspelled.scansWord hread.1.1 hread.1.2 hends
    have hscans := hword.scans (scans_nil _)
    rwa [List.append_nil] at hscans
  | @cons t t' ts word gap rest hspelled hne hgap hrest ih =>
    obtain ⟨c, gap', rfl⟩ := List.exists_cons_of_ne_nil hne
    have hends : EndsToken (c :: gap' ++ rest) := by
      intro d hd
      cases hd
      exact hgap c List.mem_cons_self
    rw [List.append_assoc]
    exact (hspelled.scansWord hread.1.1 hread.1.2 hends).scans ((ih hread.2).blank hgap)

end

end XmlAudit.XPath
