import XmlAudit.Proofs.Xml.Expansion
import XmlAudit.Proofs.Xml.Printing

/-!
# Document type declarations

* `SubsetPart`, `Doctype`: a document type declaration and the parts of its internal subset.
* `Quiet`, `Doctype.Plain`: nothing in it looks like a declaration or an end that it is not.
* `Doctype.declare_content`: its entities are those of the parts that declare one.
* `Doctype.scans`: it is read as one event.
-/

namespace XmlAudit.Xml

open Text (dropWord_eq_some_iff)

/-- The declaration of a general entity whose value stands in it, with the blanks in its gaps. -/
structure GeneralEntity where
  name : List Char
  value : List Char
  quote : Char
  beforeName : List Char
  beforeValue : List Char
  behindValue : List Char

/-- The parts of an internal subset. -/
inductive SubsetPart where
  | general (entity : GeneralEntity)
  | parameter (space rest : List Char)
  /-- What follows the name of an external entity starts with `SYSTEM` or `PUBLIC`. -/
  | external (space name space' rest : List Char)
  | comment (text : List Char)
  | instruction (text : List Char)
  /-- Blanks, and whatever else has no markup in it. -/
  | between (text : List Char)

/-- A document type declaration with an internal subset: the blanks before its name, the name and
the external identifier, the parts in the brackets, and what follows them. -/
structure Doctype where
  space : List Char
  head : List Char
  parts : List SubsetPart
  tail : List Char

/-- A run of blanks that is not empty. -/
def IsGap (cs : List Char) : Prop := cs ≠ [] ∧ ∀ c ∈ cs, Text.isBlank c = true

/-- A general entity is declared with a quoted value, blanks before its name and its value, and a
name. -/
structure GeneralEntity.WellFormed (e : GeneralEntity) : Prop where
  name_ne : e.name ≠ []
  name : ∀ c ∈ e.name, isEntityNameChar c = true
  quote : e.quote = '"' ∨ e.quote = '\''
  value : e.quote ∉ e.value
  beforeName : IsGap e.beforeName
  beforeValue : IsGap e.beforeValue
  behindValue : ∀ c ∈ e.behindValue, Text.isBlank c = true

instance (cs : List Char) : Decidable (IsGap cs) :=
  decidable_of_iff (cs ≠ [] ∧ cs.all Text.isBlank) (by rw [IsGap, List.all_eq_true])

instance (e : GeneralEntity) : Decidable e.WellFormed :=
  decidable_of_iff (e.name ≠ [] ∧ e.name.all isEntityNameChar ∧ (e.quote = '"' ∨ e.quote = '\'') ∧
      e.quote ∉ e.value ∧ IsGap e.beforeName ∧ IsGap e.beforeValue ∧
      e.behindValue.all Text.isBlank) <| by
    simp only [List.all_eq_true]
    exact ⟨fun ⟨h₁, h₂, h₃, h₄, h₅, h₆, h₇⟩ => ⟨h₁, h₂, h₃, h₄, h₅, h₆, h₇⟩,
      fun ⟨h₁, h₂, h₃, h₄, h₅, h₆, h₇⟩ => ⟨h₁, h₂, h₃, h₄, h₅, h₆, h₇⟩⟩

/-- The start of every entity declaration. -/
def entityWord : List Char := "<!ENTITY".toList

/-- The start of every document type declaration, behind its bracket. -/
def doctypeWord : List Char := ['!', 'D', 'O', 'C', 'T', 'Y', 'P', 'E']

/-- A declaration as written. -/
def GeneralEntity.text (e : GeneralEntity) : List Char :=
  entityWord ++ (e.beforeName ++ (e.name ++ (e.beforeValue ++ (e.quote ::
    (e.value ++ (e.quote :: (e.behindValue ++ ['>'])))))))

namespace SubsetPart

/-- A part that declares something is written as it must be; the rest may hold anything. -/
def WellFormed : SubsetPart → Prop
  | general e => e.WellFormed
  | parameter space _ => IsGap space
  | external space name space' rest =>
    IsGap space ∧ (name ≠ [] ∧ ∀ c ∈ name, isEntityNameChar c = true) ∧ IsGap space' ∧
      ("SYSTEM".toList <+: rest ∨ "PUBLIC".toList <+: rest)
  | comment _ => True
  | instruction _ => True
  | between text => '<' ∉ text

instance : DecidablePred WellFormed
  | general e => inferInstanceAs (Decidable e.WellFormed)
  | parameter space _ => inferInstanceAs (Decidable (IsGap space))
  | external space name space' rest =>
    decidable_of_iff (IsGap space ∧ (name ≠ [] ∧ name.all isEntityNameChar) ∧ IsGap space' ∧
        ("SYSTEM".toList <+: rest ∨ "PUBLIC".toList <+: rest))
      (by rw [List.all_eq_true, WellFormed])
  | comment _ => .isTrue trivial
  | instruction _ => .isTrue trivial
  | between text => inferInstanceAs (Decidable ('<' ∉ text))

/-- A part as written. -/
def text : SubsetPart → List Char
  | general e => e.text
  | parameter space rest => entityWord ++ (space ++ ('%' :: (rest ++ ['>'])))
  | external space name space' rest => entityWord ++ (space ++ (name ++ (space' ++ (rest ++ ['>']))))
  | comment text => "<!--".toList ++ (text ++ "-->".toList)
  | instruction text => "<?".toList ++ (text ++ "?>".toList)
  | between text => text

/-- The name and the value that a part declares. -/
def declaration? : SubsetPart → Option (String × List Char)
  | general e => some (String.ofList e.name, e.value)
  | _ => none

end SubsetPart

/-- Several parts as written. -/
def subsetText (parts : List SubsetPart) : List Char := parts.flatMap SubsetPart.text

/-- The names and values that parts declare, in order. -/
def declared (parts : List SubsetPart) : List (String × List Char) :=
  parts.filterMap SubsetPart.declaration?

/-- **Nothing in a text is taken for a declaration**, with these characters behind it. -/
def Quiet (cs behind : List Char) : Prop :=
  ∀ here, here <:+ cs → here ≠ [] → entityDeclaration? (here ++ behind) = none

/-- No `>` of a text closes more than was opened in it, and all that was opened is closed. -/
structure Balanced (cs : List Char) : Prop where
  inside : ∀ before after, cs = before ++ '>' :: after → before.count '<' ≠ before.count '>'
  closed : cs.count '<' = cs.count '>'

namespace Doctype

/-- What a declaration declares from its name on. -/
def content (d : Doctype) : List Char :=
  d.head ++ ('[' :: (subsetText d.parts ++ (']' :: d.tail)))

/-- What stands between the brackets around a declaration. -/
def inner (d : Doctype) : List Char := doctypeWord ++ (d.space ++ d.content)

/-- A declaration as written. -/
def text (d : Doctype) : List Char := '<' :: (d.inner ++ ['>'])

/-- A declaration has a name, and its parts are well formed. -/
structure WellFormed (d : Doctype) : Prop where
  space : ∀ c ∈ d.space, Text.isXmlBlank c = true
  head : ∃ c rest, d.head = c :: rest ∧ Text.isXmlBlank c = false
  parts : ∀ p ∈ d.parts, p.WellFormed

/-- **Nothing in a declaration is what it is not:** its brackets pair up, also those in values,
comments and instructions, and only the parts that declare a general entity look like it. -/
structure Plain (d : Doctype) : Prop where
  balanced : Balanced d.content
  head : Quiet d.head ('[' :: (subsetText d.parts ++ (']' :: d.tail)))
  parts : ∀ front p back, d.parts = front ++ p :: back → p.declaration? = none →
    Quiet p.text.tail (subsetText back ++ (']' :: d.tail))
  tail : Quiet d.tail []

end Doctype

/-! ## Finding declarations -/

section

variable {cs behind rest name gap : List Char} {c : Char}

theorem entityDeclaration?_of_ne (h : c ≠ '<') : entityDeclaration? (c :: cs) = none := by
  have hword : Text.dropWord "<!ENTITY".toList (c :: cs) = none := by
    simp [Text.dropWord, Ne.symm h]
  rw [entityDeclaration?, hword]
  rfl

theorem dropBlanks_gap (hgap : IsGap gap) (hc : Text.isBlank c = false) :
    dropBlanks (gap ++ c :: rest) = some (c :: rest) := by
  obtain ⟨hne, hblank⟩ := hgap
  obtain ⟨b, bs, rfl⟩ := List.exists_cons_of_ne_nil hne
  rw [List.cons_append, dropBlanks, if_pos (hblank b List.mem_cons_self),
    dropWhile_append_cons (fun d hd => hblank d (List.mem_cons_of_mem b hd)) hc]

/-- What a declaration is read as behind its name and the blanks there. -/
def quotedValue? (name cs : List Char) : Option (String × List Char × List Char) := do
  let (quote, cs) ← match cs with
    | c :: rest => if c = '"' ∨ c = '\'' then some (c, rest) else none
    | [] => none
  let value := cs.takeWhile (· ≠ quote)
  let cs ← Text.dropWord [quote] (cs.dropWhile (· ≠ quote))
  let cs ← Text.dropWord ['>'] (cs.dropWhile Text.isBlank)
  return (String.ofList name, value, cs)

theorem isBlank_of_isEntityNameChar (h : isEntityNameChar c = true) : Text.isBlank c = false := by
  simp only [isEntityNameChar, Bool.and_eq_true, Bool.not_eq_true'] at h
  exact h.1.1.1.1

theorem isEntityNameChar_of_isBlank (h : Text.isBlank c = true) : isEntityNameChar c = false := by
  simp [isEntityNameChar, h]

/-- Blanks, a name and blanks are passed over. -/
theorem entityDeclaration?_named {gap' : List Char} (hgap : IsGap gap) (hne : name ≠ [])
    (hname : ∀ d ∈ name, isEntityNameChar d = true) (hgap' : IsGap gap')
    (hc : Text.isBlank c = false) :
    entityDeclaration? (entityWord ++ (gap ++ (name ++ (gap' ++ c :: rest)))) =
      quotedValue? name (c :: rest) := by
  obtain ⟨n, ns, hn⟩ := List.exists_cons_of_ne_nil hne
  obtain ⟨b, bs, hb⟩ := List.exists_cons_of_ne_nil hgap'.1
  have hword : Text.dropWord "<!ENTITY".toList (entityWord ++ (gap ++ (name ++ (gap' ++ c :: rest)))) =
      some (gap ++ (name ++ (gap' ++ c :: rest))) := dropWord_eq_some_iff.2 rfl
  have hfirst : Text.isBlank n = false :=
    isBlank_of_isEntityNameChar (hname n (hn ▸ List.mem_cons_self))
  have hstop : isEntityNameChar b = false :=
    isEntityNameChar_of_isBlank (hgap'.2 b (hb ▸ List.mem_cons_self))
  have htake : (name ++ (gap' ++ c :: rest)).takeWhile isEntityNameChar = name := by
    rw [hb, List.cons_append, takeWhile_append_cons hname hstop]
  have hdrop : (name ++ (gap' ++ c :: rest)).dropWhile isEntityNameChar = gap' ++ c :: rest := by
    rw [hb, List.cons_append, dropWhile_append_cons hname hstop]
  have hblanks : dropBlanks (gap ++ (name ++ (gap' ++ c :: rest))) =
      some (name ++ (gap' ++ c :: rest)) := by
    rw [hn, List.cons_append, dropBlanks_gap hgap hfirst]
  have hsome : (!name.isEmpty) = true := by simp [hne]
  simp only [entityDeclaration?, hword, hblanks, htake, hdrop, dropBlanks_gap hgap' hc, hsome,
    Option.bind_eq_bind, Option.bind_some, guard_true, pure, quotedValue?]

/-- Something else than a name behind the blanks makes no declaration. -/
theorem entityDeclaration?_unnamed (hgap : IsGap gap) (hc : Text.isBlank c = false)
    (hname : isEntityNameChar c = false) :
    entityDeclaration? (entityWord ++ (gap ++ c :: rest)) = none := by
  have hword : Text.dropWord "<!ENTITY".toList (entityWord ++ (gap ++ c :: rest)) =
      some (gap ++ c :: rest) := dropWord_eq_some_iff.2 rfl
  have htake : (c :: rest).takeWhile isEntityNameChar = [] :=
    List.takeWhile_cons_of_neg (by simp [hname])
  simp only [entityDeclaration?, hword, dropBlanks_gap hgap hc, htake, Option.bind_eq_bind,
    Option.bind_some, List.isEmpty_nil, Bool.not_true, Bool.false_eq_true, guard_false]
  rfl

theorem quotedValue?_of_ne (h : c ≠ '"') (h' : c ≠ '\'') : quotedValue? name (c :: rest) = none := by
  simp [quotedValue?, h, h']

/-- **The declaration of a general entity is found where it starts.** -/
theorem GeneralEntity.entityDeclaration?_text {e : GeneralEntity} (h : e.WellFormed) :
    entityDeclaration? (e.text ++ behind) = some (String.ofList e.name, e.value, behind) := by
  have hquote : Text.isBlank e.quote = false := by
    rcases h.quote with hq | hq <;> rw [hq] <;> decide
  have hvalue : ∀ c ∈ e.value, decide (c ≠ e.quote) = true := by
    intro c hc
    rw [decide_eq_true_eq]
    rintro rfl
    exact h.value hc
  have htext : e.text ++ behind = entityWord ++ (e.beforeName ++ (e.name ++ (e.beforeValue ++
      e.quote :: (e.value ++ e.quote :: (e.behindValue ++ '>' :: behind))))) := by
    simp [GeneralEntity.text]
  rw [htext, entityDeclaration?_named h.beforeName h.name_ne h.name h.beforeValue hquote,
    quotedValue?]
  have hstop : decide (e.quote ≠ e.quote) = false := by simp
  have hclose : Text.isBlank '>' = false := by decide
  simp only [if_pos h.quote, Option.bind_eq_bind, Option.bind_some,
    takeWhile_append_cons hvalue hstop, dropWhile_append_cons hvalue hstop, Text.dropWord,
    if_true, dropWhile_append_cons h.behindValue hclose, pure]

/-- A part that declares no general entity is not taken for one where it starts. -/
theorem SubsetPart.entityDeclaration?_text {p : SubsetPart} (h : p.WellFormed)
    (hp : p.declaration? = none) (hne : p.text ≠ []) :
    entityDeclaration? (p.text ++ behind) = none := by
  cases p with
  | general e => cases hp
  | parameter space rest =>
    have htext : (parameter space rest).text ++ behind =
        entityWord ++ (space ++ '%' :: (rest ++ '>' :: behind)) := by simp [text]
    rw [htext, entityDeclaration?_unnamed h (by decide) (by decide)]
  | external space name space' rest =>
    obtain ⟨hspace, ⟨hsome, hname⟩, hspace', hrest⟩ := h
    -- an external entity has a word where a value would start with a quote
    have hexternal : ∀ c more, rest = c :: more → Text.isBlank c = false → c ≠ '"' → c ≠ '\'' →
        entityDeclaration? ((external space name space' rest).text ++ behind) = none := by
      rintro c more rfl hc hdouble hsingle
      have htext : (external space name space' (c :: more)).text ++ behind =
          entityWord ++ (space ++ (name ++ (space' ++ c :: (more ++ '>' :: behind)))) := by
        simp [text]
      rw [htext, entityDeclaration?_named hspace hsome hname hspace' hc,
        quotedValue?_of_ne hdouble hsingle]
    have hsystem : "SYSTEM".toList = 'S' :: "YSTEM".toList := by decide
    have hpublic : "PUBLIC".toList = 'P' :: "UBLIC".toList := by decide
    rcases hrest with ⟨more, hmore⟩ | ⟨more, hmore⟩
    · rw [hsystem] at hmore
      exact hexternal _ _ hmore.symm (by decide) (by decide) (by decide)
    · rw [hpublic] at hmore
      exact hexternal _ _ hmore.symm (by decide) (by decide) (by decide)
  | comment text => rfl
  | instruction text => rfl
  | between cs =>
    obtain ⟨c, cs, rfl⟩ := List.exists_cons_of_ne_nil hne
    refine entityDeclaration?_of_ne ?_
    rintro rfl
    exact h List.mem_cons_self

/-! ## Quiet texts -/

theorem quiet_cons : Quiet (c :: cs) behind ↔
    entityDeclaration? (c :: cs ++ behind) = none ∧ Quiet cs behind := by
  constructor
  · intro h
    exact ⟨h _ List.suffix_rfl (List.cons_ne_nil c cs),
      fun here hhere => h here (hhere.trans (List.suffix_cons c cs))⟩
  · rintro ⟨hc, hcs⟩ here hhere hne
    rcases List.suffix_cons_iff.1 hhere with rfl | hhere
    · exact hc
    · exact hcs here hhere hne

/-- A text without opening brackets is quiet. -/
theorem quiet_of_notMem (h : '<' ∉ cs) : Quiet cs behind := by
  rintro here hhere hne
  obtain ⟨c, cs, rfl⟩ := List.exists_cons_of_ne_nil hne
  refine entityDeclaration?_of_ne ?_
  rintro rfl
  exact h (hhere.subset List.mem_cons_self)

/-- A quiet text is passed over. -/
theorem entityDeclarations_quiet (h : Quiet cs behind) :
    entityDeclarations 0 (cs ++ behind) = entityDeclarations 0 behind := by
  induction cs with
  | nil => rfl
  | cons c cs ih =>
    obtain ⟨hc, hcs⟩ := quiet_cons.1 h
    rw [List.cons_append, entityDeclarations, ← List.cons_append, hc]
    exact ih hcs

theorem entityDeclarations_skip (cs behind : List Char) :
    entityDeclarations cs.length (cs ++ behind) = entityDeclarations 0 behind := by
  induction cs with
  | nil => rfl
  | cons c cs ih =>
    rw [List.length_cons, List.cons_append, entityDeclarations, ih]

/-- **The declaration of a general entity is read**, and nothing inside it. -/
theorem GeneralEntity.entityDeclarations_text {e : GeneralEntity} (h : e.WellFormed) :
    entityDeclarations 0 (e.text ++ behind) =
      (String.ofList e.name, e.value) :: entityDeclarations 0 behind := by
  have hfound : entityDeclaration? (e.text ++ behind) = some (String.ofList e.name, e.value, behind) :=
    GeneralEntity.entityDeclaration?_text h
  obtain ⟨c, cs, htext⟩ : ∃ c cs, e.text = c :: cs := ⟨_, _, rfl⟩
  rw [htext] at hfound ⊢
  rw [List.cons_append] at hfound ⊢
  have hskip : (cs ++ behind).length - behind.length = cs.length := by simp
  rw [entityDeclarations, hfound]
  simp only
  rw [hskip, entityDeclarations_skip]

/-- **The parts of an internal subset are read one after the other**, and only those declare
something that declare a general entity. -/
theorem entityDeclarations_subsetText {parts : List SubsetPart} (h : ∀ p ∈ parts, p.WellFormed)
    (hquiet : ∀ front p back, parts = front ++ p :: back → p.declaration? = none →
      Quiet p.text.tail (subsetText back ++ behind)) :
    entityDeclarations 0 (subsetText parts ++ behind) =
      declared parts ++ entityDeclarations 0 behind := by
  induction parts with
  | nil => rfl
  | cons p parts ih =>
    have hrest := ih (fun q hq => h q (List.mem_cons_of_mem p hq))
      fun front q back hsplit => hquiet (p :: front) q back (by rw [hsplit, List.cons_append])
    have htext : subsetText (p :: parts) ++ behind = p.text ++ (subsetText parts ++ behind) := by
      simp [subsetText]
    have hwell := h p List.mem_cons_self
    rw [htext]
    cases hp : p.declaration? with
    | some d =>
      have hdeclared : declared (p :: parts) = d :: declared parts := List.filterMap_cons_some hp
      obtain ⟨e, rfl⟩ : ∃ e, p = .general e := by cases p <;> first | exact ⟨_, rfl⟩ | cases hp
      cases hp
      rw [hdeclared, List.cons_append, ← hrest]
      exact GeneralEntity.entityDeclarations_text hwell
    | none =>
      have hdeclared : declared (p :: parts) = declared parts := List.filterMap_cons_none hp
      rw [hdeclared, ← hrest]
      refine entityDeclarations_quiet ?_
      -- nothing starts with the part itself, and nothing inside it
      cases hcs : p.text with
      | nil => intro here hhere hne; exact absurd (List.suffix_nil.1 hhere) hne
      | cons c cs =>
        have htail := hquiet [] p parts rfl hp
        rw [hcs, List.tail_cons] at htail
        refine quiet_cons.2 ⟨?_, htail⟩
        rw [← hcs]
        exact SubsetPart.entityDeclaration?_text hwell hp (by rw [hcs]; exact List.cons_ne_nil c cs)

/-- **A document type declaration declares what its parts declare.** -/
theorem Doctype.declare_content {d : Doctype} (hd : d.WellFormed) (h : d.Plain) :
    Entities.declare [] d.content = tableOf (declared d.parts) := by
  have htail : entityDeclarations 0 (']' :: d.tail) = [] := by
    have hquiet : Quiet (']' :: d.tail) [] :=
      quiet_cons.2 ⟨entityDeclaration?_of_ne (by decide), h.tail⟩
    have := entityDeclarations_quiet hquiet
    rwa [List.append_nil] at this
  have hbracket : Quiet ['['] (subsetText d.parts ++ ']' :: d.tail) := quiet_of_notMem (by decide)
  have hdeclared : entityDeclarations 0 d.content = declared d.parts := by
    rw [Doctype.content, entityDeclarations_quiet h.head, ← List.singleton_append,
      entityDeclarations_quiet hbracket, entityDeclarations_subsetText hd.parts h.parts, htail,
      List.append_nil]
  rw [Entities.declare, hdeclared, tableOf]

/-! ## Reading a document type declaration -/

/-- **Markup is read to its end** exactly if that is the first `>` that closes it. -/
theorem splitClosing_eq_some_iff {closes : List Char → Bool} {before : List Char} :
    splitClosing closes before (cs ++ '>' :: rest) = some (before.reverse ++ cs, rest) ↔
      (∀ front after, cs = front ++ '>' :: after → closes (front.reverse ++ before) = false) ∧
        closes (cs.reverse ++ before) = true := by
  induction cs generalizing before with
  | nil =>
    rw [List.nil_append, splitClosing]
    by_cases hcloses : closes before = true
    · simp [hcloses]
    · rw [if_neg fun h => hcloses h.2]
      refine ⟨fun h => ?_, fun h => absurd h.2 hcloses⟩
      have := splitClosing_length h
      omega
  | cons c cs ih =>
    rw [List.cons_append, splitClosing]
    -- a `>` that closes the markup here would end it too early
    by_cases hopen : c = '>' ∧ closes before = true
    · obtain ⟨rfl, hcloses⟩ := hopen
      rw [if_pos ⟨rfl, hcloses⟩]
      constructor
      · intro h
        have := congrArg List.length (Prod.mk.inj (Option.some.inj h)).2
        rw [List.length_append, List.length_cons] at this
        omega
      · rintro ⟨hinside, -⟩
        have := hinside [] cs rfl
        rw [List.reverse_nil, List.nil_append, hcloses] at this
        cases this
    · have hfront : (c :: before).reverse ++ cs = before.reverse ++ c :: cs := by simp
      have hback : cs.reverse ++ c :: before = (c :: cs).reverse ++ before := by simp
      rw [if_neg hopen, ← hfront, ih, hback]
      refine and_congr_left fun _ => ⟨?_, ?_⟩
      · intro hinside front after hsplit
        cases front with
        | nil =>
          obtain ⟨rfl, -⟩ := List.cons.inj hsplit
          simpa using hopen
        | cons f front =>
          obtain ⟨rfl, htail⟩ := List.cons.inj hsplit
          have := hinside front after htail
          simpa using this
      · rintro hinside front after rfl
        have := hinside (c :: front) after rfl
        simpa using this

/-- **Exactly the balanced declarations are read to their end.** -/
theorem splitClosing_balanced_iff :
    splitClosing closesDoctype [] (cs ++ '>' :: rest) = some (cs, rest) ↔ Balanced cs := by
  have hread : splitClosing closesDoctype [] (cs ++ '>' :: rest) = some (cs, rest) ↔
      (∀ front after, cs = front ++ '>' :: after → closesDoctype (front.reverse ++ []) = false) ∧
        closesDoctype (cs.reverse ++ []) = true := splitClosing_eq_some_iff
  simp only [List.append_nil, closesDoctype, List.count_reverse, decide_eq_false_iff_not,
    decide_eq_true_eq] at hread
  rw [hread]
  exact ⟨fun h => ⟨h.1, h.2⟩, fun h => ⟨h.inside, h.closed⟩⟩

/-- A text without brackets in front of a balanced one leaves it balanced. -/
theorem Balanced.append_front {front : List Char} (h : Balanced cs)
    (hfront : ∀ c ∈ front, c ≠ '<' ∧ c ≠ '>') : Balanced (front ++ cs) := by
  induction front with
  | nil => exact h
  | cons c front ih =>
    obtain ⟨hopen, hclose⟩ := hfront c List.mem_cons_self
    obtain ⟨hinside, hclosed⟩ := ih fun d hd => hfront d (List.mem_cons_of_mem c hd)
    refine ⟨?_, ?_⟩
    · intro before after hsplit
      cases before with
      | nil => exact absurd (List.cons.inj hsplit).1 hclose
      | cons b before =>
        obtain ⟨rfl, htail⟩ := List.cons.inj hsplit
        rw [List.count_cons_of_ne hopen, List.count_cons_of_ne hclose]
        exact hinside before after htail
    · rw [List.cons_append, List.count_cons_of_ne hopen, List.count_cons_of_ne hclose]
      exact hclosed

theorem dropWordAnyCase_append (word cs : List Char) :
    dropWordAnyCase word (word ++ cs) = some cs := by
  induction word with
  | nil => rw [List.nil_append, dropWordAnyCase]
  | cons w word ih => rw [List.cons_append, dropWordAnyCase, if_pos rfl, ih]

namespace Doctype

theorem bangEvent_inner {d : Doctype} (hd : d.WellFormed) :
    bangEvent .doctype d.inner = .ok (.doctype d.content) := by
  obtain ⟨c, head, hhead, hc⟩ := hd.head
  have hword : dropWordAnyCase "!DOCTYPE".toList d.inner = some (d.space ++ d.content) := by
    have hword : "!DOCTYPE".toList = doctypeWord := by decide
    rw [hword, inner, dropWordAnyCase_append]
  have hcontent : d.content = c :: (head ++ ('[' :: (subsetText d.parts ++ (']' :: d.tail)))) := by
    rw [content, hhead, List.cons_append]
  have hdrop : (d.space ++ d.content).dropWhile Text.isXmlBlank = d.content := by
    rw [hcontent]
    exact dropWhile_append_cons hd.space hc
  simp only [bangEvent, hword, hdrop]
  rw [hcontent]

theorem balanced_inner {d : Doctype} (hd : d.WellFormed) (h : d.Plain) : Balanced d.inner := by
  have hspace : ∀ c ∈ d.space, c ≠ '<' ∧ c ≠ '>' := by
    intro c hc
    have hblank := hd.space c hc
    constructor <;> rintro rfl <;> exact absurd hblank (by decide)
  exact (h.balanced.append_front hspace).append_front (by simp [doctypeWord])

/-- **A document type declaration is read as one event.** -/
theorem scans {d : Doctype} (hd : d.WellFormed) (h : d.Plain) (rest : List Char) :
    Scans [] (d.text ++ rest) [.doctype d.content] [] rest := by
  have hsplit : splitClosing closesDoctype [] (d.inner ++ '>' :: rest) = some (d.inner, rest) :=
    splitClosing_balanced_iff.2 (balanced_inner hd h)
  have hread : ∀ offset, nextBang (d.inner ++ '>' :: rest) offset [] = .found (.doctype d.content)
      (offset + Text.byteLength d.inner + 1)
      ⟨rest, offset + Text.byteLength d.inner + 1, false, []⟩ := by
    intro offset
    have htail : ∃ cs, (d.inner ++ '>' :: rest).tail = 'D' :: cs := ⟨_, rfl⟩
    obtain ⟨cs, htail⟩ := htail
    simp only [nextBang, htail, hsplit, bangEvent_inner hd]
  refine scans_of_found fun offset => ?_
  rw [text, List.cons_append, List.append_assoc, List.singleton_append]
  exact ⟨_, _, hread (offset + 1)⟩

end Doctype

end

end XmlAudit.Xml
