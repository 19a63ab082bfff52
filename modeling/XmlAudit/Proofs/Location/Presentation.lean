import XmlAudit.Location
import XmlAudit.Proofs.Text.Words

/-!
# Paths as they are shown

A stylesheet writes the step for an element of a namespace as `/*:local[namespace-uri()='uri'][k]`.

* `NamespaceStep`: such a step in any of its spellings.
* `isWildcards`: the namespaces of which nothing is left once wildcards are dropped.
* `strip_written`: the wildcards of such a step are dropped.
* `drop_predicate`: its predicate is left out, unless it asks for no namespace.
* `presentationPath_steps`: what is shown of a path of such steps.
-/

namespace XmlAudit.Location

open Text (isBlank trimStart trimEnd dropWord dropWord_eq_some_iff wordRule replaceFrom
  replaceFrom_plain replaceFrom_taken replaceFrom_append mem_of_mem_replaceFrom)

variable {c : Char} {cs uri rest gap : List Char} {s : NamespaceStep} {steps : List NamespaceStep}

/-! ## Steps -/

/-- A step for an element of a namespace: its local name, the namespace, how the predicate is spelled
and the position. Blanks may stand behind the bracket that opens the predicate, on both sides of the
equals sign and before the bracket that closes it. -/
structure NamespaceStep where
  name : List Char
  uri : List Char
  quote : Char
  opening : List Char
  beforeEquals : List Char
  afterEquals : List Char
  closing : List Char
  index : Option Nat

namespace NamespaceStep

/-- The predicate of a step up to the namespace. -/
def question (s : NamespaceStep) : List Char :=
  s.opening ++ ("namespace-uri()".toList ++ (s.beforeEquals ++ ('=' :: (s.afterEquals ++ [s.quote]))))

/-- The predicate of a step behind the namespace. -/
def close (s : NamespaceStep) : List Char := s.quote :: (s.closing ++ [']'])

/-- The predicate of a step, asking for a namespace. -/
def predicate (s : NamespaceStep) (uri : List Char) : List Char :=
  '[' :: (s.question ++ (uri ++ s.close))

/-- The position of a step as written. -/
def position (s : NamespaceStep) : List Char :=
  s.index.elim [] fun k => '[' :: (Nat.toDigits 10 k ++ [']'])

/-- The step as a stylesheet writes it. -/
def written (s : NamespaceStep) : List Char :=
  '/' :: '*' :: ':' :: (s.name ++ (s.predicate s.uri ++ s.position))

/-- The step with its name and position only. -/
def cleaned (s : NamespaceStep) : List Char := '/' :: (s.name ++ s.position)

/-- **A step that is well-formed**: no sign of paths is in its name, neither brackets nor quotes are
in its namespace, and only blanks stand where blanks may. -/
structure WellFormed (s : NamespaceStep) : Prop where
  name : ∀ c ∈ s.name, c ∉ ['*', ':', '/', '[', ']']
  uri : ∀ c ∈ s.uri, c ∉ ['[', ']', '\'', '"']
  quote : s.quote = '\'' ∨ s.quote = '"'
  blank : ∀ c ∈ s.opening ++ s.beforeEquals ++ s.afterEquals ++ s.closing, isBlank c

end NamespaceStep

/-! ## Wildcards -/

/-- Whether a text is a row of wildcards; the empty one is. -/
def isWildcards : List Char → Bool
  | [] => true
  | '*' :: ':' :: cs => isWildcards cs
  | _ :: _ => false

/-- A text without its wildcards. -/
def strip (cs : List Char) : List Char := replaceFrom (wordRule ['*', ':'] []) 0 cs

theorem wildcardRule_eq_none (hc : c ≠ '*') (cs : List Char) :
    wordRule ['*', ':'] [] (c :: cs) = none := by
  simp [wordRule, List.isPrefixOf, Ne.symm hc]

theorem strip_plain (h : '*' ∉ cs) : strip (cs ++ rest) = cs ++ strip rest :=
  replaceFrom_plain fun _ hc rest => wildcardRule_eq_none (fun heq => h (heq ▸ hc)) rest

theorem strip_wildcard (rest : List Char) : strip ('*' :: ':' :: rest) = strip rest :=
  @replaceFrom_taken (wordRule ['*', ':'] []) '*' [':'] rest [] rfl

/-- No wildcard ends with a character other than a colon. -/
theorem strip_append (hc : c ≠ ':') : strip (cs ++ c :: rest) = strip cs ++ strip (c :: rest) := by
  refine replaceFrom_append (Nat.zero_le _) fun back _ hne => ?_
  match back with
  | [b] => simp [wordRule, List.isPrefixOf, Ne.symm hc]
  | b :: b' :: back =>
    have hsame : wordRule ['*', ':'] [] (b :: b' :: back ++ c :: rest) =
        wordRule ['*', ':'] [] (b :: b' :: back) := by simp [wordRule, List.isPrefixOf]
    refine ⟨hsame, fun r hr => ?_⟩
    rw [wordRule] at hr
    split at hr
    · cases hr
      simp
    · cases hr

theorem strip_eq_nil_iff : strip uri = [] ↔ isWildcards uri := by
  fun_induction isWildcards uri with
  | case1 => simp [strip, replaceFrom]
  | case2 cs ih => rw [strip_wildcard, ih]
  | case3 c cs hother =>
    have hnone : wordRule ['*', ':'] [] (c :: cs) = none := by
      cases cs with
      | nil => simp [wordRule, List.isPrefixOf]
      | cons b cs =>
        rw [wordRule, if_neg]
        intro hword
        simp only [List.isPrefixOf, Bool.and_true, Bool.and_eq_true, beq_iff_eq] at hword
        exact hother cs hword.1.symm (by rw [hword.2])
    rw [strip, replaceFrom, hnone]
    simp

/-- What is left of a text was there before. -/
theorem mem_of_mem_strip (hc : c ∈ strip cs) : c ∈ cs := by
  refine mem_of_mem_replaceFrom (fun back r hr => ?_) hc
  rw [wordRule] at hr
  split at hr
  · cases hr
    rfl
  · cases hr

/-! ## Blanks -/

theorem trimStart_append (hgap : ∀ c ∈ gap, isBlank c) (hc : isBlank c = false) :
    trimStart (gap ++ c :: rest) = c :: rest := by
  rw [trimStart, List.dropWhile_append_of_pos hgap, List.dropWhile_cons_of_neg (by simp [hc])]

theorem trimEnd_append (hgap : ∀ c ∈ gap, isBlank c) (hc : isBlank c = false) :
    trimEnd (cs ++ c :: gap) = cs ++ [c] := by
  have hreverse : (cs ++ c :: gap).reverse = gap.reverse ++ c :: cs.reverse := by simp
  have hblank : ∀ c ∈ gap.reverse, isBlank c := fun c hc => hgap c (List.mem_reverse.1 hc)
  rw [trimEnd, hreverse, List.dropWhile_append_of_pos hblank,
    List.dropWhile_cons_of_neg (by simp [hc])]
  simp

/-! ## Predicates -/

/-- The signs that a rule could take for the start of something. -/
def ruleSigns : List Char := ['*', '[']

theorem not_mem_ruleSigns_of_isBlank (hc : isBlank c) : c ∉ ruleSigns := by
  intro hmem
  have hnone : ruleSigns.all (!isBlank ·) = true := by decide
  have hc' := List.all_eq_true.1 hnone c hmem
  rw [hc] at hc'
  cases hc'

/-- Digits are not blank. -/
theorem isBlank_eq_false_of_isDigit (hc : c.isDigit) : isBlank c = false := by
  have hrange : 48 ≤ c.toNat ∧ c.toNat ≤ 57 := by
    simpa [Char.isDigit, UInt32.le_iff_toNat_le] using hc
  simp only [isBlank, Text.inRanges, Text.blankRanges, List.any_eq_false, Bool.and_eq_true,
    decide_eq_true_eq]
  intro r hr
  fin_cases hr <;> simp only <;> omega

namespace NamespaceStep.WellFormed

variable (h : s.WellFormed)

include h

theorem opening : ∀ c ∈ s.opening, isBlank c := fun c hc => h.blank c (by simp [hc])

theorem beforeEquals : ∀ c ∈ s.beforeEquals, isBlank c := fun c hc => h.blank c (by simp [hc])

theorem afterEquals : ∀ c ∈ s.afterEquals, isBlank c := fun c hc => h.blank c (by simp [hc])

theorem closing : ∀ c ∈ s.closing, isBlank c := fun c hc => h.blank c (by simp [hc])

theorem quote_facts : isBlank s.quote = false ∧ s.quote ∉ ruleSigns ∧ s.quote ≠ ':' ∧
    s.quote ≠ ']' := by
  rcases h.quote with hq | hq <;> rw [hq] <;> decide

/-- What is around the namespace has none of the signs of rules. -/
theorem not_mem_ruleSigns : (∀ c ∈ s.question, c ∉ ruleSigns) ∧ (∀ c ∈ s.close, c ∉ ruleSigns) := by
  have hword : ∀ c ∈ "namespace-uri()".toList, c ∉ ruleSigns := by
    have hall : "namespace-uri()".toList.all (!ruleSigns.contains ·) = true := by cbv
    intro c hc
    simpa using List.all_eq_true.1 hall c hc
  have hequals : '=' ∉ ruleSigns := by decide
  have hbracket : ']' ∉ ruleSigns := by decide
  have hquote := h.quote_facts.2.1
  constructor
  · intro c hc
    simp only [question, List.mem_append, List.mem_cons, List.not_mem_nil, or_false] at hc
    rcases hc with hc | hc | hc | rfl | hc | rfl
    · exact not_mem_ruleSigns_of_isBlank (h.opening c hc)
    · exact hword c hc
    · exact not_mem_ruleSigns_of_isBlank (h.beforeEquals c hc)
    · exact hequals
    · exact not_mem_ruleSigns_of_isBlank (h.afterEquals c hc)
    · exact hquote
  · intro c hc
    simp only [close, List.mem_append, List.mem_cons, List.not_mem_nil, or_false] at hc
    rcases hc with rfl | hc | rfl
    · exact hquote
    · exact not_mem_ruleSigns_of_isBlank (h.closing c hc)
    · exact hbracket

/-- What stands in quotes up to a bracket is found, unless the quotes are empty. -/
theorem quotedToBracket? (huri : ∀ c ∈ uri, c ≠ '[' ∧ c ≠ ']') :
    quotedToBracket? (s.quote :: (uri ++ (s.close ++ rest))) =
      if uri = [] then none else some (uri.length + s.closing.length + 2) := by
  obtain ⟨hquote, -, -, hbracket⟩ := h.quote_facts
  have hopen : s.quote ≠ '[' := by rcases h.quote with hq | hq <;> rw [hq] <;> decide
  -- up to the bracket that closes the predicate there is no other one
  have hinner : ∀ c ∈ uri ++ s.quote :: s.closing, (c ≠ '[' && c ≠ ']') = true := by
    intro c hc
    rw [Bool.and_eq_true, decide_eq_true_eq, decide_eq_true_eq]
    rcases List.mem_append.1 hc with hc | hc
    · exact huri c hc
    · rcases List.mem_cons.1 hc with rfl | hc
      · exact ⟨hopen, hbracket⟩
      · have hblank := h.closing c hc
        constructor <;> rintro rfl <;> cases hblank
  have hsplit : uri ++ (s.close ++ rest) = (uri ++ s.quote :: s.closing) ++ ']' :: rest := by
    simp [close]
  have htake : (uri ++ (s.close ++ rest)).takeWhile (fun c => c ≠ '[' && c ≠ ']') =
      uri ++ s.quote :: s.closing := by
    rw [hsplit, List.takeWhile_append_of_pos hinner, List.takeWhile_cons_of_neg (by decide),
      List.append_nil]
  have hdrop : ((uri ++ (s.close ++ rest)).drop (uri ++ s.quote :: s.closing).length).head? =
      some ']' := by
    rw [hsplit, List.drop_left]
    rfl
  have hkept : trimEnd (uri ++ s.quote :: s.closing) = uri ++ [s.quote] :=
    trimEnd_append h.closing hquote
  rw [Location.quotedToBracket?]
  simp only [htake, hdrop, hkept]
  cases uri with
  | nil => simp
  | cons c uri =>
    rw [if_pos, if_neg (List.cons_ne_nil c uri)]
    · simp
      omega
    · exact ⟨h.quote, trivial, by simp, List.getLast?_concat⟩

/-- **The predicate of a step is recognised**, unless it asks for no namespace. -/
theorem namespacePredicateRule (huri : ∀ c ∈ uri, c ≠ '[' ∧ c ≠ ']') :
    namespacePredicateRule (s.predicate uri ++ rest) =
      if uri = [] then none else some ([], (s.predicate uri).length) := by
  obtain ⟨hquote, -⟩ := h.quote_facts
  have hn : isBlank 'n' = false := by decide
  have hequals : isBlank '=' = false := by decide
  -- the rule reads one sign after the other, with blanks before each
  have hopening : dropWord ['['] (s.predicate uri ++ rest) = some (s.opening ++
      ("namespace-uri()".toList ++ (s.beforeEquals ++ ('=' :: (s.afterEquals ++
        s.quote :: (uri ++ (s.close ++ rest))))))) := by
    rw [dropWord_eq_some_iff]
    simp [predicate, question]
  have hasked : dropWord "namespace-uri()".toList (trimStart (s.opening ++
      ("namespace-uri()".toList ++ (s.beforeEquals ++ ('=' :: (s.afterEquals ++
        s.quote :: (uri ++ (s.close ++ rest)))))))) = some (s.beforeEquals ++
          ('=' :: (s.afterEquals ++ s.quote :: (uri ++ (s.close ++ rest))))) := by
    rw [dropWord_eq_some_iff]
    exact trimStart_append h.opening hn
  have hassigned : dropWord ['='] (trimStart (s.beforeEquals ++
      ('=' :: (s.afterEquals ++ s.quote :: (uri ++ (s.close ++ rest)))))) =
        some (s.afterEquals ++ s.quote :: (uri ++ (s.close ++ rest))) := by
    rw [dropWord_eq_some_iff]
    exact trimStart_append h.beforeEquals hequals
  have hquoted := @WellFormed.quotedToBracket? uri rest s h huri
  simp only [Location.namespacePredicateRule, bind, hopening, Option.bind_some, hasked, hassigned,
    trimStart_append h.afterEquals hquote, hquoted]
  split
  · rfl
  · simp [predicate, question, close]
    omega

end NamespaceStep.WellFormed

/-! ## What is shown of a step -/

theorem predicateRule_eq_none (hc : c ≠ '[') (cs : List Char) :
    namespacePredicateRule (c :: cs) = none := by
  simp [namespacePredicateRule, dropWord, Ne.symm hc]

/-- A position is no predicate that asks for a namespace. -/
theorem predicateRule_position (k : Nat) :
    namespacePredicateRule ('[' :: (Nat.toDigits 10 k ++ rest)) = none := by
  obtain ⟨digit, digits, hdigits⟩ := List.exists_cons_of_ne_nil (@Nat.toDigits_ne_nil k 10)
  have hdigit : digit.isDigit := by
    refine Nat.isDigit_of_mem_toDigits (by decide) (Nat.le_refl 10) (n := k) ?_
    rw [hdigits]
    exact List.mem_cons_self
  have hblank : isBlank digit = false := isBlank_eq_false_of_isDigit hdigit
  have hn : 'n' ≠ digit := by
    rintro rfl
    cases hdigit
  have hname : "namespace-uri()".toList = 'n' :: "amespace-uri()".toList := by cbv
  rw [hdigits, List.cons_append, namespacePredicateRule, dropWord, if_pos rfl, dropWord]
  simp only [bind, Option.bind_some]
  rw [trimStart, List.dropWhile_cons_of_neg (by simp [hblank]), hname, dropWord, if_neg hn]
  rfl

namespace NamespaceStep

/-- The step without its wildcard and with what is left of its namespace. -/
def stripped (s : NamespaceStep) : List Char :=
  '/' :: (s.name ++ (s.predicate (strip s.uri) ++ s.position))

/-- **What is shown of a step**: its name and position, and the predicate with an empty namespace if
there is nothing but wildcards in the namespace. -/
def shown (s : NamespaceStep) : List Char :=
  '/' :: (s.name ++ ((if isWildcards s.uri then s.predicate [] else []) ++ s.position))

/-- A position is a digit string in brackets. -/
theorem mem_position (hc : c ∈ s.position) : c = '[' ∨ c = ']' ∨ c.isDigit := by
  rw [position] at hc
  cases hindex : s.index with
  | none =>
    rw [hindex] at hc
    cases hc
  | some k =>
    rw [hindex] at hc
    simp only [Option.elim_some, List.mem_cons, List.mem_append, List.not_mem_nil, or_false] at hc
    rcases hc with rfl | hc | rfl
    · exact .inl rfl
    · exact .inr (.inr (Nat.isDigit_of_mem_toDigits (by decide) (Nat.le_refl 10) hc))
    · exact .inr (.inl rfl)

theorem star_not_mem_position (s : NamespaceStep) : '*' ∉ s.position := by
  intro hmem
  rcases mem_position hmem with heq | heq | hdigit <;> contradiction

/-- The rule for predicates passes over a position. -/
theorem replaceFrom_position (s : NamespaceStep) :
    replaceFrom namespacePredicateRule 0 (s.position ++ rest) =
      s.position ++ replaceFrom namespacePredicateRule 0 rest := by
  rw [position]
  cases s.index with
  | none => rfl
  | some k =>
    have hplain : ∀ c ∈ Nat.toDigits 10 k ++ [']'], ∀ cs, namespacePredicateRule (c :: cs) = none := by
      intro c hc cs
      refine predicateRule_eq_none ?_ cs
      rintro rfl
      rcases List.mem_append.1 hc with hc | hc
      · exact absurd (Nat.isDigit_of_mem_toDigits (by decide) (Nat.le_refl 10) hc) (by decide)
      · exact absurd hc (by decide)
    have hopen : namespacePredicateRule ('[' :: ((Nat.toDigits 10 k ++ [']']) ++ rest)) = none := by
      rw [List.append_assoc]
      exact predicateRule_position k
    simp only [Option.elim_some, List.cons_append]
    rw [replaceFrom, hopen]
    simp only
    rw [replaceFrom_plain hplain]

end NamespaceStep

/-- The wildcards of a step are dropped. -/
theorem strip_written (h : s.WellFormed) : strip (s.written ++ rest) = s.stripped ++ strip rest := by
  obtain ⟨hquestion, hclose⟩ := h.not_mem_ruleSigns
  have hsign : '*' ∈ ruleSigns := by decide
  have hfront : '*' ∉ s.name ++ ('[' :: s.question) := by
    rw [List.mem_append, List.mem_cons, not_or, not_or]
    exact ⟨fun hc => h.name _ hc (by decide), by decide, fun hc => hquestion _ hc hsign⟩
  have hback : '*' ∉ s.close ++ s.position := by
    rw [List.mem_append, not_or]
    exact ⟨fun hc => hclose _ hc hsign, s.star_not_mem_position⟩
  have hslash : '*' ∉ ['/'] := by decide
  have hcolon : s.quote ≠ ':' := h.quote_facts.2.2.1
  have hwritten : s.written ++ rest = ['/'] ++ ('*' :: ':' :: ((s.name ++ '[' :: s.question) ++
      (s.uri ++ s.quote :: (s.closing ++ ']' :: (s.position ++ rest))))) := by
    simp [NamespaceStep.written, NamespaceStep.predicate, NamespaceStep.close]
  have hleft : s.quote :: (s.closing ++ ']' :: (s.position ++ rest)) =
      (s.close ++ s.position) ++ rest := by simp [NamespaceStep.close]
  rw [hwritten, strip_plain hslash, strip_wildcard, strip_plain hfront, strip_append hcolon, hleft,
    strip_plain hback]
  simp [NamespaceStep.stripped, NamespaceStep.predicate]

/-- The predicate of a step is dropped, unless it asks for no namespace. -/
theorem drop_predicate (h : s.WellFormed) :
    replaceFrom namespacePredicateRule 0 (s.stripped ++ rest) =
      s.shown ++ replaceFrom namespacePredicateRule 0 rest := by
  have hplain : ∀ {cs : List Char}, '[' ∉ cs → ∀ c ∈ cs, ∀ rest,
      namespacePredicateRule (c :: rest) = none :=
    fun hcs c hc rest => predicateRule_eq_none (fun heq => hcs (heq ▸ hc)) rest
  have hfront : '[' ∉ '/' :: s.name := by
    rw [List.mem_cons, not_or]
    exact ⟨by decide, fun hc => h.name _ hc (by decide)⟩
  have huri : ∀ c ∈ strip s.uri, c ≠ '[' ∧ c ≠ ']' := fun c hc => by
    have hmem := h.uri c (mem_of_mem_strip hc)
    simp only [List.mem_cons, not_or] at hmem
    exact ⟨hmem.1, hmem.2.1⟩
  have hrule := @NamespaceStep.WellFormed.namespacePredicateRule (strip s.uri) (s.position ++ rest) s
    h huri
  have hpredicate : replaceFrom namespacePredicateRule 0
      (s.predicate (strip s.uri) ++ (s.position ++ rest)) =
        (if isWildcards s.uri then s.predicate [] else []) ++
          replaceFrom namespacePredicateRule 0 (s.position ++ rest) := by
    -- a predicate that asks for no namespace is passed over sign by sign
    by_cases hempty : strip s.uri = []
    · rw [hempty, if_pos rfl] at hrule
      have hinside : '[' ∉ s.question ++ ([] ++ s.close) := by
        obtain ⟨hquestion, hclose⟩ := h.not_mem_ruleSigns
        have hsign : '[' ∈ ruleSigns := by decide
        rw [List.nil_append, List.mem_append, not_or]
        exact ⟨fun hc => hquestion _ hc hsign, fun hc => hclose _ hc hsign⟩
      rw [hempty, if_pos (strip_eq_nil_iff.1 hempty)]
      rw [NamespaceStep.predicate, List.cons_append] at hrule ⊢
      rw [replaceFrom, hrule]
      simp only
      rw [replaceFrom_plain (hplain hinside)]
      rfl
    · rw [if_neg hempty] at hrule
      rw [if_neg (fun hw => hempty (strip_eq_nil_iff.2 hw))]
      exact replaceFrom_taken hrule
  have hstripped : s.stripped ++ rest =
      ('/' :: s.name) ++ (s.predicate (strip s.uri) ++ (s.position ++ rest)) := by
    simp [NamespaceStep.stripped]
  rw [hstripped, replaceFrom_plain (hplain hfront), hpredicate, s.replaceFrom_position]
  simp [NamespaceStep.shown]

theorem strip_flatMap (h : ∀ s ∈ steps, s.WellFormed) :
    strip (steps.flatMap NamespaceStep.written) = steps.flatMap NamespaceStep.stripped := by
  induction steps with
  | nil => rfl
  | cons s steps ih =>
    obtain ⟨hs, hsteps⟩ := List.forall_mem_cons.1 h
    rw [List.flatMap_cons, strip_written hs, ih hsteps, List.flatMap_cons]

theorem drop_flatMap (h : ∀ s ∈ steps, s.WellFormed) :
    replaceFrom namespacePredicateRule 0 (steps.flatMap NamespaceStep.stripped) =
      steps.flatMap NamespaceStep.shown := by
  induction steps with
  | nil => rfl
  | cons s steps ih =>
    obtain ⟨hs, hsteps⟩ := List.forall_mem_cons.1 h
    rw [List.flatMap_cons, drop_predicate hs, ih hsteps, List.flatMap_cons]

theorem length_cleaned_le_shown (steps : List NamespaceStep) :
    (steps.flatMap NamespaceStep.cleaned).length ≤ (steps.flatMap NamespaceStep.shown).length := by
  induction steps with
  | nil => exact Nat.le_refl _
  | cons s steps ih =>
    simp only [List.flatMap_cons, List.length_append, NamespaceStep.shown, NamespaceStep.cleaned,
      List.length_cons]
    omega

/-- Of steps that all name a namespace only names and positions are shown, and no more than these are
shown of others. -/
theorem shown_eq_cleaned_iff :
    steps.flatMap NamespaceStep.shown = steps.flatMap NamespaceStep.cleaned ↔
      ∀ s ∈ steps, ¬isWildcards s.uri := by
  induction steps with
  | nil => simp
  | cons s steps ih =>
    rw [List.flatMap_cons, List.flatMap_cons, List.forall_mem_cons, ← ih]
    by_cases hs : isWildcards s.uri
    · have hlength := length_cleaned_le_shown steps
      have hlonger : s.cleaned.length < s.shown.length := by
        rw [NamespaceStep.shown, if_pos hs]
        simp only [NamespaceStep.cleaned, NamespaceStep.predicate, List.length_cons,
          List.length_append]
        omega
      refine iff_of_false (fun heq => ?_) fun hnone => hnone.1 hs
      have hsame := congrArg List.length heq
      rw [List.length_append, List.length_append] at hsame
      omega
    · have hsame : s.shown = s.cleaned := by
        rw [NamespaceStep.shown, if_neg hs]
        rfl
      rw [hsame, List.append_cancel_left_eq]
      exact ⟨fun heq => ⟨hs, heq⟩, And.right⟩

/-- **What is shown of the path of a stylesheet.** The wildcards of its steps are left out, and the
predicates as well, but for the ones whose namespace is empty or a row of wildcards: these are shown
with an empty namespace. So the path is shown by its names and positions alone just if no step has
such a namespace. -/
theorem presentationPath_steps (h : ∀ s ∈ steps, s.WellFormed) :
    presentationPath (String.ofList (steps.flatMap NamespaceStep.written)) =
      String.ofList (steps.flatMap NamespaceStep.shown) ∧
    (presentationPath (String.ofList (steps.flatMap NamespaceStep.written)) =
      String.ofList (steps.flatMap NamespaceStep.cleaned) ↔ ∀ s ∈ steps, ¬isWildcards s.uri) := by
  have hword : "*:".toList = ['*', ':'] := by cbv
  have hnothing : "".toList = [] := rfl
  have hshown : presentationPath (String.ofList (steps.flatMap NamespaceStep.written)) =
      String.ofList (steps.flatMap NamespaceStep.shown) := by
    rw [presentationPath, Text.replaceAll, Text.replaceMatches, Text.replaceMatches, hword, hnothing,
      String.toList_ofList, String.toList_ofList]
    have hstrip : replaceFrom (wordRule ['*', ':'] []) 0 (steps.flatMap NamespaceStep.written) =
        steps.flatMap NamespaceStep.stripped := strip_flatMap h
    rw [hstrip, drop_flatMap h]
  refine ⟨hshown, ?_⟩
  rw [hshown, String.ofList_inj, shown_eq_cleaned_iff]

/-- Of two steps, one of them in no namespace, the predicate of that one is still shown. -/
theorem presentationPath_steps_no_namespace :
    let a : NamespaceStep := ⟨['a'], ['u', 'r', 'n'], '"', [' '], [], [' '], [], some 1⟩
    let b : NamespaceStep := ⟨['b'], [], '\'', [], [], [], [], some 12⟩
    (∀ s ∈ [a, b], s.WellFormed) ∧
      String.ofList ([a, b].flatMap NamespaceStep.written) =
        "/*:a[ namespace-uri()= \"urn\"][1]/*:b[namespace-uri()=''][12]" ∧
      presentationPath "/*:a[ namespace-uri()= \"urn\"][1]/*:b[namespace-uri()=''][12]" =
        "/a[1]/b[namespace-uri()=''][12]" := by
  intro a b
  have hsteps : ∀ s ∈ [a, b], s.WellFormed := by
    have hblank : isBlank ' ' := by decide
    have ha : a.WellFormed := ⟨by simp [a], by simp [a], .inr rfl, by simp [a, hblank]⟩
    have hb : b.WellFormed := ⟨by simp [b], by simp [b], .inl rfl, by simp [b]⟩
    simpa using ⟨ha, hb⟩
  have hwritten : String.ofList ([a, b].flatMap NamespaceStep.written) =
      "/*:a[ namespace-uri()= \"urn\"][1]/*:b[namespace-uri()=''][12]" := by cbv
  refine ⟨hsteps, hwritten, ?_⟩
  rw [← hwritten, (presentationPath_steps hsteps).1]
  cbv

end XmlAudit.Location
