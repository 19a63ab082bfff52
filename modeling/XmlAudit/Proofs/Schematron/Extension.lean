import XmlAudit.Proofs.Schematron.Inclusion

/-!
# Extension

A rule of a rule file takes over what the abstract rules contain that it extends, wherever in the file
or in included ones they are defined.

* `rulesIn`, `definitions`, `wordingsIn`: the rules, the abstract rules and the wordings of a rule file
  in which inclusions have been replaced, in its order.
* `LastDefinition`, `Extends`: the abstract rule that a name stands for.
* `IsCheck`, `IsLet`, `IsRule`: what elements of a rule file stand for.
* `readAll_forall₂`: what a walk reads corresponds to what it reads it from.
* `RuleSet.Expands`: what the rule set of a rule file amounts to.
* `extension_independent`: so do the rule sets of all rule files that can be read, and no others can.
-/

namespace XmlAudit.Schematron

open Files (Path)
open Xml (Tree Element)
open XPath (Query)

/-! ## The elements of a rule file -/

/-- Whether a node is an element of a name. -/
def isElement (name : String) : Tree → Bool
  | .text _ _ => false
  | .element _ e _ => isNamed name e

/-- The elements of a name among nodes. -/
def named (name : String) (ts : List Tree) : List Tree := ts.filter (isElement name)

/-- The nodes inside an element. -/
def inside : Tree → List Tree
  | .text _ _ => []
  | .element _ _ children => children

/-- The value of an attribute of an element. -/
def attribute? (name : String) : Tree → Option String
  | .text _ _ => none
  | .element _ e _ => attr? e name

/-- The kind of check that an element is. -/
def checkKind? : Tree → Option CheckKind
  | .text _ _ => none
  | .element _ e _ =>
    if isNamed "assert" e then some .assert
    else if isNamed "report" e then some .report
    else none

/-- Whether a node is a check. -/
def isCheck (t : Tree) : Bool := (checkKind? t).isSome

/-- The wordings that a check refers to. -/
def references (check : Tree) : List String :=
  ((attribute? "diagnostics" check).map Text.fields).getD []

/-- The variables of a rule. -/
def letsIn (rule : Tree) : List Tree := named "let" (inside rule)

/-- The checks of a rule. -/
def checksIn (rule : Tree) : List Tree := (inside rule).filter isCheck

/-- The extensions of a rule. -/
def extendsIn (rule : Tree) : List Tree := named "extends" (inside rule)

/-- Whether a rule is abstract. -/
def isAbstract (rule : Tree) : Bool := attribute? "abstract" rule = some "true"

/-- The concrete rules of a pattern. -/
def concreteIn (pattern : Tree) : List Tree := (named "rule" (inside pattern)).filter (!isAbstract ·)

/-- The rules of a schema, of one pattern after the other. -/
def rulesIn (schema : List Tree) : List Tree :=
  (named "pattern" schema).flatMap fun p => named "rule" (inside p)

/-- The abstract rules of a schema. -/
def definitions (schema : List Tree) : List Tree := (rulesIn schema).filter isAbstract

/-- The wordings of a schema. -/
def wordingsIn (schema : List Tree) : List Tree :=
  (named "diagnostics" schema).flatMap fun t => named "diagnostic" (inside t)

/-- **The abstract rule of a name**: the last one in the schema, in whichever pattern. -/
def LastDefinition (schema : List Tree) (id : String) (t : Tree) : Prop :=
  ∃ before after, definitions schema = before ++ t :: after ∧ attribute? "id" t = some id ∧
    ∀ u ∈ after, attribute? "id" u ≠ some id

/-- An extension names an abstract rule. -/
def Extends (schema : List Tree) (u t : Tree) : Prop :=
  ∃ id, attribute? "rule" u = some id ∧ LastDefinition schema id t

/-! ## What elements stand for -/

/-- A variable is read from an element. -/
structure IsLet (t : Tree) (b : Binding) : Prop where
  name : attribute? "name" t = some b.name
  value : ∃ source, attribute? "value" t = some source ∧ Query.compile source = .ok b.value

/-- A check is read from an element. -/
structure IsCheck (t : Tree) (c : Check) : Prop where
  kind : checkKind? t = some c.kind
  id : c.id = attribute? "id" t
  role : c.role = attribute? "role" t
  flag : c.flag = attribute? "flag" t
  test : ∃ source, attribute? "test" t = some source ∧ Query.compile source = .ok c.test
  message : ∃ file, messageOfAll file (inside t) = .ok c.message
  wordings : c.wordings = references t

/-- **A concrete rule is read from an element**: its variables and its checks are its own, in their
order, and then those of each abstract rule that it extends, in the order of the extensions. -/
structure IsRule (schema : List Tree) (t : Tree) (rule : Rule) : Prop where
  id : rule.id = attribute? "id" t
  context : ∃ source, attribute? "context" t = some source ∧
    Query.compilePattern source = .ok rule.context
  parts : ∃ lent, List.Forall₂ (Extends schema) (extendsIn t) lent ∧
    List.Forall₂ IsLet ((t :: lent).flatMap letsIn) rule.lets ∧
    List.Forall₂ IsCheck ((t :: lent).flatMap checksIn) rule.checks

/-- A pattern is read from an element: it has the concrete rules, in their order, and no others. -/
structure IsPattern (schema : List Tree) (t : Tree) (pattern : Pattern) : Prop where
  id : pattern.id = attribute? "id" t
  rules : List.Forall₂ (IsRule schema) (concreteIn t) pattern.rules

/-- **What the rule set of a schema amounts to.** -/
structure RuleSet.Expands (schema : List Tree) (set : RuleSet) : Prop where
  /-- The patterns are those of the schema, with its concrete rules. -/
  patterns : List.Forall₂ (IsPattern schema) (named "pattern" schema) set.patterns
  /-- Every extension, of any rule, names an abstract rule. -/
  extends_defined : ∀ t ∈ rulesIn schema, ∀ u ∈ extendsIn t, ∃ base, Extends schema u base
  /-- The wordings are those of the schema. -/
  wording_iff : ∀ id, (set.wording? id).isSome ↔ ∃ w ∈ wordingsIn schema, attribute? "id" w = some id
  /-- Every wording that a check refers to is there. -/
  wordings_defined : ∀ p ∈ set.patterns, ∀ rule ∈ p.rules, ∀ check ∈ rule.checks,
    ∀ id ∈ check.wordings, (set.wording? id).isSome

/-! ## Reading -/

section

variable {s : Spot} {e : Element}

theorem Spot.attr_eq_ok {name v : String} : s.attr e name = .ok v ↔ attr? e name = some v := by
  rw [← s.attr_toOption e name, toOption_eq_some]

theorem isLet_of_binding {b : Binding} (h : s.binding e = .ok b) (line : Nat) (children : List Tree) :
    IsLet (.element line e children) b := by
  obtain ⟨name, hname, h⟩ := bind_eq_ok.1 h
  obtain ⟨source, hsource, h⟩ := bind_eq_ok.1 h
  obtain ⟨value, hvalue, h⟩ := bind_eq_ok.1 h
  cases h
  exact ⟨Spot.attr_eq_ok.1 hname, source, Spot.attr_eq_ok.1 hsource, mapError_eq_ok.1 hvalue⟩

theorem isCheck_of_checkOf {kind : CheckKind} {children : List Tree} {c : Check} {line : Nat}
    (h : checkOf s kind e children = .ok c)
    (hkind : checkKind? (.element line e children) = some kind) :
    IsCheck (.element line e children) c := by
  obtain ⟨source, hsource, h⟩ := bind_eq_ok.1 h
  obtain ⟨test, htest, h⟩ := bind_eq_ok.1 h
  obtain ⟨message, hmessage, h⟩ := bind_eq_ok.1 h
  cases h
  exact ⟨hkind, rfl, rfl, rfl, ⟨source, Spot.attr_eq_ok.1 hsource, mapError_eq_ok.1 htest⟩,
    ⟨s.file, hmessage⟩, rfl⟩

end

/-- **What a walk reads from nodes corresponds to them**, where what it reads from each of them does. -/
theorem readAll_forall₂ {α β γ : Type} {read : Tree → Except AuditError (List α)} {R : γ → β → Prop}
    {f : List Tree → List γ} {g : List α → List β} (hf : ∀ l l', f (l ++ l') = f l ++ f l')
    (hg : ∀ l l', g (l ++ l') = g l ++ g l')
    {ts : List Tree} {items : List α} (h : Reader.readAll read ts = .ok items)
    (hread : ∀ t ∈ ts, ∀ first, read t = .ok first → List.Forall₂ R (f [t]) (g first)) :
    List.Forall₂ R (f ts) (g items) := by
  have hnil : f [] = [] ∧ g [] = [] :=
    ⟨List.self_eq_append_left.1 (hf [] []), List.self_eq_append_left.1 (hg [] [])⟩
  induction ts generalizing items with
  | nil =>
    cases h
    rw [hnil.1]
    exact hnil.2 ▸ .nil
  | cons t ts ih =>
    rw [Reader.readAll_cons] at h
    obtain ⟨first, hfirst, h⟩ := bind_eq_ok.1 h
    obtain ⟨rest, hrest, h⟩ := bind_eq_ok.1 h
    cases h
    obtain ⟨ht, hts⟩ := List.forall_mem_cons.1 hread
    rw [← List.singleton_append, hf, hg]
    exact List.rel_append (ht first hfirst) (ih hrest hts)

/-! ### Rules -/

theorem ruleItems_eq (file : Path) (ts : List Tree) :
    ruleItems file ts = Reader.readAll (fun t => ruleItems file [t]) ts := by
  induction ts with
  | nil => rfl
  | cons t ts ih =>
    rw [Reader.readAll_cons, ← ih]
    cases t with
    | text line s =>
      simp only [ruleItems]
      exact (bind_pure _).symm
    | element line e children =>
      simp only [ruleItems]
      split_ifs
      · cases (Spot.mk file line).binding e <;> rfl
      · cases checkOf ⟨file, line⟩ .assert e children <;> rfl
      · cases checkOf ⟨file, line⟩ .report e children <;> rfl
      · cases (Spot.mk file line).attr e "rule" <;> rfl
      · rfl

/-- What is read from a node in a rule. -/
theorem ruleItems_singleton {file : Path} {t : Tree} {items : List RuleItem}
    (h : ruleItems file [t] = .ok items) :
    List.Forall₂ IsLet (named "let" [t]) (items.filterMap RuleItem.binding?) ∧
      List.Forall₂ IsCheck ([t].filter isCheck) (items.filterMap RuleItem.check?) ∧
      List.Forall₂ (fun u id => attribute? "rule" u = some id) (named "extends" [t])
        (items.filterMap RuleItem.base?) := by
  cases t with
  | text line s =>
    cases h
    exact ⟨.nil, .nil, .nil⟩
  | element line e children =>
    -- an element has one name, so what is read as one kind of item is no element of another kind
    simp only [ruleItems] at h
    split_ifs at h with hlet hassert hreport hextends
    · obtain ⟨b, hb, h⟩ := bind_eq_ok.1 h
      cases h
      have hno : ∀ name, "let" ≠ name → isNamed name e = false := fun _ => isNamed_ne hlet
      simp [named, isElement, isCheck, checkKind?, hlet, hno, isLet_of_binding hb, RuleItem.binding?,
        RuleItem.check?, RuleItem.base?]
    · obtain ⟨c, hc, h⟩ := bind_eq_ok.1 h
      cases h
      have hno : ∀ name, "assert" ≠ name → isNamed name e = false := fun _ => isNamed_ne hassert
      have hkind : checkKind? (.element line e children) = some .assert := by
        simp [checkKind?, hassert]
      simp [named, isElement, isCheck, hkind, hno, isCheck_of_checkOf hc hkind, RuleItem.binding?,
        RuleItem.check?, RuleItem.base?]
    · obtain ⟨c, hc, h⟩ := bind_eq_ok.1 h
      cases h
      have hno : ∀ name, "report" ≠ name → isNamed name e = false := fun _ => isNamed_ne hreport
      have hkind : checkKind? (.element line e children) = some .report := by
        simp [checkKind?, hassert, hreport]
      simp [named, isElement, isCheck, hkind, hno, isCheck_of_checkOf hc hkind, RuleItem.binding?,
        RuleItem.check?, RuleItem.base?]
    · obtain ⟨id, hid, h⟩ := bind_eq_ok.1 h
      cases h
      simp [named, isElement, isCheck, checkKind?, hlet, hassert, hreport, hextends, attribute?,
        Spot.attr_eq_ok.1 hid, RuleItem.binding?, RuleItem.check?, RuleItem.base?]
    · cases h
      simp [named, isElement, isCheck, checkKind?, hlet, hassert, hreport, hextends]

/-- An abstract rule is read from an element. -/
structure IsDefinition (t : Tree) (a : AbstractRule) : Prop where
  id : attribute? "id" t = some a.id
  lets : List.Forall₂ IsLet (letsIn t) a.lets
  checks : List.Forall₂ IsCheck (checksIn t) a.checks
  extends_nil : extendsIn t = []

/-- A rule as it is written is read from an element. -/
structure IsDraft (t : Tree) (d : DraftRule) : Prop where
  id : d.rule.id = attribute? "id" t
  context : ∃ source, attribute? "context" t = some source ∧
    Query.compilePattern source = .ok d.rule.context
  lets : List.Forall₂ IsLet (letsIn t) d.rule.lets
  checks : List.Forall₂ IsCheck (checksIn t) d.rule.checks
  bases : List.Forall₂ (fun u id => attribute? "rule" u = some id) (extendsIn t) d.bases

theorem isDefinition_or_isDraft {s : Spot} {e : Element} {line : Nat} {children : List Tree}
    {item : PatternItem} (h : ruleOf s e children = .ok item) :
    (isAbstract (.element line e children) = true ∧
      ∃ a, item = .abstract a ∧ IsDefinition (.element line e children) a) ∨
    (isAbstract (.element line e children) = false ∧
      ∃ d, item = .rule d ∧ IsDraft (.element line e children) d) := by
  obtain ⟨items, hitems, h⟩ := bind_eq_ok.1 h
  rw [ruleItems_eq] at hitems
  have hread := fun t first => @ruleItems_singleton s.file t first
  have hlets : List.Forall₂ IsLet (letsIn (.element line e children)) _ :=
    readAll_forall₂ (fun _ _ => List.filter_append _ _) (fun _ _ => List.filterMap_append) hitems
      fun t _ first hfirst => (hread t first hfirst).1
  have hchecks : List.Forall₂ IsCheck (checksIn (.element line e children)) _ :=
    readAll_forall₂ (fun _ _ => List.filter_append _ _) (fun _ _ => List.filterMap_append) hitems
      fun t _ first hfirst => (hread t first hfirst).2.1
  have hbases : List.Forall₂ (fun u id => attribute? "rule" u = some id)
      (extendsIn (.element line e children)) _ :=
    readAll_forall₂ (fun _ _ => List.filter_append _ _) (fun _ _ => List.filterMap_append) hitems
      fun t _ first hfirst => (hread t first hfirst).2.2
  split at h
  · next habstract =>
    refine .inl ⟨decide_eq_true habstract, ?_⟩
    split at h
    · cases h
    · next id hid =>
      dsimp only at h
      split at h
      · next hempty =>
        cases h
        -- an abstract rule that extends another one is an error
        rw [List.isEmpty_iff.1 hempty] at hbases
        exact ⟨_, rfl, hid, hlets, hchecks, List.forall₂_nil_right_iff.1 hbases⟩
      · cases h
  · next hconcrete =>
    refine .inr ⟨decide_eq_false hconcrete, ?_⟩
    obtain ⟨source, hsource, h⟩ := bind_eq_ok.1 h
    obtain ⟨context, hcontext, h⟩ := bind_eq_ok.1 h
    cases h
    exact ⟨_, rfl, rfl, ⟨source, Spot.attr_eq_ok.1 hsource, mapError_eq_ok.1 hcontext⟩, hlets, hchecks,
      hbases⟩

/-! ### Patterns -/

variable {r : Reader} {file : Path}

/-- What is read from a node in a pattern, where no inclusion may be followed. -/
theorem patternItems_singleton {t : Tree} {items : List PatternItem}
    (h : r.patternItems file 0 t = .ok items) :
    List.Forall₂ IsDefinition ((named "rule" [t]).filter isAbstract)
        (items.filterMap PatternItem.abstract?) ∧
      List.Forall₂ IsDraft ((named "rule" [t]).filter (!isAbstract ·))
        (items.filterMap PatternItem.rule?) := by
  cases t with
  | text line s =>
    rw [Reader.patternItems] at h
    cases h
    exact ⟨.nil, .nil⟩
  | element line e children =>
    cases hinc : isNamed "include" e with
    | true =>
      obtain ⟨details, hfails⟩ := @Reader.following_zero r _ r.patternItems file line e
      rw [Reader.patternItems_inclusion hinc, hfails] at h
      cases h
    | false =>
      rw [Reader.patternItems] at h
      -- one case for each kind of element, which is told by its name and so is none of the others
      split_ifs at h with hlet hrule hinc'
      · obtain ⟨b, -, h⟩ := bind_eq_ok.1 h
        cases h
        have hno : isNamed "rule" e = false := isNamed_ne hlet (by decide)
        simp [named, isElement, hno, PatternItem.abstract?, PatternItem.rule?]
      · obtain ⟨item, hitem, h⟩ := bind_eq_ok.1 h
        cases h
        rcases @isDefinition_or_isDraft _ _ line _ _ hitem with
          ⟨habstract, a, rfl, ha⟩ | ⟨hconcrete, d, rfl, hd⟩
        · simp [named, isElement, hrule, habstract, ha, PatternItem.abstract?, PatternItem.rule?]
        · simp [named, isElement, hrule, hconcrete, hd, PatternItem.abstract?, PatternItem.rule?]
      · rw [hinc] at hinc'
        cases hinc'
      · cases h
        simp [named, isElement, hrule]

/-- A pattern as it is written is read from an element. -/
structure IsDraftPattern (t : Tree) (p : Option String × List PatternItem) : Prop where
  id : p.1 = attribute? "id" t
  abstracts : List.Forall₂ IsDefinition ((named "rule" (inside t)).filter isAbstract)
    (p.2.filterMap PatternItem.abstract?)
  rules : List.Forall₂ IsDraft (concreteIn t) (p.2.filterMap PatternItem.rule?)

theorem wordingsOf_forall₂ {ts : List Tree} {ws : List Wording} (h : wordingsOf file ts = .ok ws) :
    List.Forall₂ (fun u w => attribute? "id" u = some w.id) (named "diagnostic" ts) ws := by
  induction ts generalizing ws with
  | nil =>
    cases h
    exact .nil
  | cons t ts ih =>
    cases t with
    | text line s => exact ih h
    | element line e children =>
      rw [wordingsOf] at h
      split at h
      · next hname =>
        obtain ⟨id, hid, h⟩ := bind_eq_ok.1 h
        obtain ⟨message, -, h⟩ := bind_eq_ok.1 h
        obtain ⟨rest, hrest, h⟩ := bind_eq_ok.1 h
        cases h
        have helement : isElement "diagnostic" (.element line e children) = true := hname
        rw [named, List.filter_cons_of_pos helement]
        exact .cons (Spot.attr_eq_ok.1 hid) (ih hrest)
      · next hname =>
        have helement : ¬isElement "diagnostic" (.element line e children) = true := hname
        rw [named, List.filter_cons_of_neg helement]
        exact ih h

/-- What is read from a node in a schema, where no inclusion may be followed. -/
theorem schemaItems_singleton {t : Tree} {items : List SchemaItem}
    (h : r.schemaItems file 0 t = .ok items) :
    List.Forall₂ IsDraftPattern (named "pattern" [t]) (items.filterMap SchemaItem.pattern?) ∧
      List.Forall₂ (fun u w => attribute? "id" u = some w.id) (wordingsIn [t])
        (items.flatMap SchemaItem.wordingList) := by
  cases t with
  | text line s =>
    rw [Reader.schemaItems] at h
    cases h
    exact ⟨.nil, .nil⟩
  | element line e children =>
    cases hinc : isNamed "include" e with
    | true =>
      obtain ⟨details, hfails⟩ := @Reader.following_zero r _ r.schemaItems file line e
      rw [Reader.schemaItems_inclusion hinc, hfails] at h
      cases h
    | false =>
      rw [Reader.schemaItems] at h
      split_ifs at h with hns hlet hpattern hcompound hwordings hinc'
      · obtain ⟨pre, -, h⟩ := bind_eq_ok.1 h
        obtain ⟨uri, -, h⟩ := bind_eq_ok.1 h
        cases h
        have hno : ∀ name, "ns" ≠ name → isNamed name e = false := fun _ => isNamed_ne hns
        simp [wordingsIn, named, isElement, hno, SchemaItem.pattern?, SchemaItem.wordingList]
      · obtain ⟨b, -, h⟩ := bind_eq_ok.1 h
        cases h
        have hno : ∀ name, "let" ≠ name → isNamed name e = false := fun _ => isNamed_ne hlet
        simp [wordingsIn, named, isElement, hno, SchemaItem.pattern?, SchemaItem.wordingList]
      · obtain ⟨inner, hinner, h⟩ := bind_eq_ok.1 h
        cases h
        rw [Reader.patternItemsOf_eq] at hinner
        have hno : ∀ name, "pattern" ≠ name → isNamed name e = false := fun _ => isNamed_ne hpattern
        have hread := fun t first => @patternItems_singleton r file t first
        have hdefinitions := readAll_forall₂ (f := fun ts => (named "rule" ts).filter isAbstract)
          (fun _ _ => by simp [named]) (fun _ _ => List.filterMap_append) hinner
          fun t _ first hfirst => (hread t first hfirst).1
        have hrules := readAll_forall₂ (f := fun ts => (named "rule" ts).filter (!isAbstract ·))
          (fun _ _ => by simp [named]) (fun _ _ => List.filterMap_append) hinner
          fun t _ first hfirst => (hread t first hfirst).2
        have hdraft : IsDraftPattern (.element line e children) (attr? e "id", inner) :=
          ⟨rfl, hdefinitions, hrules⟩
        simp [wordingsIn, named, isElement, hno, hpattern, hdraft, SchemaItem.pattern?,
          SchemaItem.wordingList]
      · obtain ⟨ws, hws, h⟩ := bind_eq_ok.1 h
        cases h
        have hno : ∀ name, "diagnostics" ≠ name → isNamed name e = false :=
          fun _ => isNamed_ne hwordings
        have hall := wordingsOf_forall₂ hws
        simpa [wordingsIn, named, isElement, hno, hwordings, inside, SchemaItem.pattern?,
          SchemaItem.wordingList] using hall
      · rw [hinc] at hinc'
        cases hinc'
      · cases h
        simp [wordingsIn, named, isElement, hpattern, hwordings]

/-! ## Extending -/

/-- The last member of a list of which something holds. -/
theorem find?_reverse_eq_some {α : Type} {p : α → Bool} {l : List α} {a : α} :
    l.reverse.find? p = some a ↔
      ∃ before after, l = before ++ a :: after ∧ p a = true ∧ ∀ b ∈ after, p b = false := by
  rw [List.find?_eq_some_iff_append]
  constructor
  · rintro ⟨ha, before, after, h, hbefore⟩
    refine ⟨after.reverse, before.reverse, ?_, ha, fun b hb => ?_⟩
    · rw [← List.reverse_reverse l, h]
      simp
    · simpa using hbefore b (List.mem_reverse.1 hb)
  · rintro ⟨before, after, rfl, ha, hafter⟩
    refine ⟨ha, after.reverse, before.reverse, by simp, fun b hb => ?_⟩
    simpa using hafter b (List.mem_reverse.1 hb)

theorem lastDefinition_iff {schema : List Tree} {id : String} {t : Tree} :
    LastDefinition schema id t ↔
      (definitions schema).reverse.find? (fun t => attribute? "id" t = some id) = some t := by
  rw [find?_reverse_eq_some]
  simp [LastDefinition]

/-- An extension names one abstract rule. -/
theorem rightUnique_extends (schema : List Tree) : Relator.RightUnique (Extends schema) := by
  rintro u t t' ⟨id, hid, h⟩ ⟨id', hid', h'⟩
  obtain rfl : id = id' := Option.some.inj (hid.symm.trans hid')
  exact Option.some.inj ((lastDefinition_iff.1 h).symm.trans (lastDefinition_iff.1 h'))

/-- What is found among some things corresponds to what is found among those from which they are read.
-/
theorem exists_find?_of_forall₂ {α β : Type} {R : α → β → Prop} {p : α → Bool} {q : β → Bool}
    {as : List α} {bs : List β} {b : β} (h : List.Forall₂ R as bs)
    (hpq : ∀ a b, R a b → p a = q b) (hb : bs.find? q = some b) :
    ∃ a, as.find? p = some a ∧ R a b := by
  induction h with
  | nil => cases hb
  | @cons a₀ b₀ _ _ hab _ ih =>
    rw [List.find?_cons] at hb ⊢
    rw [hpq a₀ b₀ hab]
    cases hq : q b₀ with
    | true =>
      rw [hq] at hb
      cases hb
      exact ⟨a₀, rfl, hab⟩
    | false =>
      rw [hq] at hb
      exact ih hb

/-- The abstract rule that is found under an id is read from the last definition of the id. -/
theorem exists_lastDefinition {schema : List Tree} {bases : List AbstractRule} {id : String}
    {a : AbstractRule} (hbases : List.Forall₂ IsDefinition (definitions schema) bases)
    (h : findBase? bases id = some a) : ∃ t, LastDefinition schema id t ∧ IsDefinition t a := by
  obtain ⟨t, ht, hta⟩ := exists_find?_of_forall₂ (p := fun t => attribute? "id" t = some id)
    (List.forall₂_reverse_iff.2 hbases) (fun t a hta => by simp [hta.id]) h
  exact ⟨t, lastDefinition_iff.2 ht, hta⟩

/-- **A rule that can be extended** has its own parts and then those of what it extends. -/
theorem DraftRule.extend_eq_ok {bases : List AbstractRule} {d : DraftRule} {rule : Rule}
    (h : d.extend bases = .ok rule) :
    ∃ lent, List.Forall₂ (fun id a => findBase? bases id = some a) d.bases lent ∧
      rule = { d.rule with
        lets := d.rule.lets ++ lent.flatMap AbstractRule.lets
        checks := d.rule.checks ++ lent.flatMap AbstractRule.checks } := by
  obtain ⟨own, ids, file⟩ := d
  simp only [extend] at h
  -- what the rule has taken over already is its own for the names to come
  induction ids generalizing own with
  | nil =>
    cases h
    exact ⟨[], .nil, by simp⟩
  | cons id ids ih =>
    rw [List.foldlM_cons] at h
    obtain ⟨next, hnext, h⟩ := bind_eq_ok.1 h
    cases hbase : findBase? bases id with
    | none =>
      rw [hbase] at hnext
      cases hnext
    | some base =>
      rw [hbase] at hnext
      cases hnext
      obtain ⟨lent, hlent, rfl⟩ := ih _ h
      exact ⟨base :: lent, .cons hbase hlent, by simp⟩

/-- The abstract rules that a rule extends are read from those that its extensions name. -/
theorem exists_lent {schema us : List Tree} {bases lent : List AbstractRule} {ids : List String}
    (hbases : List.Forall₂ IsDefinition (definitions schema) bases)
    (hus : List.Forall₂ (fun u id => attribute? "rule" u = some id) us ids)
    (hlent : List.Forall₂ (fun id a => findBase? bases id = some a) ids lent) :
    ∃ ts, List.Forall₂ (Extends schema) us ts ∧ List.Forall₂ IsDefinition ts lent := by
  induction hus generalizing lent with
  | nil =>
    cases hlent
    exact ⟨[], .nil, .nil⟩
  | cons hid _ ih =>
    obtain ⟨a, rest, ha, hrest, rfl⟩ := List.forall₂_cons_left_iff.1 hlent
    obtain ⟨t, hlast, hta⟩ := exists_lastDefinition hbases ha
    obtain ⟨ts, hextends, hts⟩ := ih hrest
    exact ⟨t :: ts, .cons ⟨_, hid, hlast⟩ hextends, .cons hta hts⟩

theorem IsDraft.isRule {schema : List Tree} {bases : List AbstractRule} {t : Tree} {d : DraftRule}
    {rule : Rule} (hd : IsDraft t d) (hbases : List.Forall₂ IsDefinition (definitions schema) bases)
    (h : d.extend bases = .ok rule) : IsRule schema t rule := by
  obtain ⟨lent, hlent, rfl⟩ := DraftRule.extend_eq_ok h
  obtain ⟨ts, hextends, hts⟩ := exists_lent hbases hd.bases hlent
  refine ⟨hd.id, hd.context, ts, hextends, ?_, ?_⟩
  · rw [List.flatMap_cons]
    exact List.rel_append hd.lets (List.rel_flatMap hts fun _ _ ht => ht.lets)
  · rw [List.flatMap_cons]
    exact List.rel_append hd.checks (List.rel_flatMap hts fun _ _ ht => ht.checks)

theorem IsDraftPattern.isPattern {schema : List Tree} {bases : List AbstractRule} {t : Tree}
    {p : Option String × List PatternItem} {pattern : Pattern} (hp : IsDraftPattern t p)
    (hbases : List.Forall₂ IsDefinition (definitions schema) bases)
    (h : Pattern.ofItems bases p.1 p.2 = .ok pattern) : IsPattern schema t pattern := by
  obtain ⟨rules, hrules, h⟩ := bind_eq_ok.1 h
  cases h
  refine ⟨hp.id, ?_⟩
  have hextended := mapM_eq_ok.1 hrules
  exact forall₂_comp hp.rules hextended fun t d rule hd h => hd.isRule hbases h

/-! ## Rule sets -/

theorem RuleSet.ofItems_eq_ok {source : Path} {items : List SchemaItem} {set : RuleSet}
    (h : RuleSet.ofItems source items = .ok set) :
    List.Forall₂ (fun p pattern => Pattern.ofItems ((items.filterMap SchemaItem.pattern?).flatMap
        fun p => p.2.filterMap PatternItem.abstract?) p.1 p.2 = .ok pattern)
      (items.filterMap SchemaItem.pattern?) set.patterns ∧
    set.wordings = items.flatMap SchemaItem.wordingList ∧
    ∀ id ∈ set.referredWordings, (set.wording? id).isSome := by
  obtain ⟨patterns, hpatterns, h⟩ := bind_eq_ok.1 h
  dsimp only at h
  split at h
  · cases h
  · next hnone =>
    cases h
    refine ⟨mapM_eq_ok.1 hpatterns, rfl, fun id hid => ?_⟩
    have hfound := List.find?_eq_none.1 hnone id hid
    simpa [Option.isSome_iff_ne_none] using hfound

/-- **The rule set of the items of a schema** amounts to what the schema is. -/
theorem RuleSet.expands {schema : List Tree} {source : Path} {items : List SchemaItem}
    {set : RuleSet} (hitems : Reader.readAll (r.schemaItems file 0) schema = .ok items)
    (h : RuleSet.ofItems source items = .ok set) : set.Expands schema := by
  have hread := fun t first => @schemaItems_singleton r file t first
  have hpatterns := readAll_forall₂ (f := named "pattern") (fun _ _ => by simp [named])
    (fun _ _ => List.filterMap_append) hitems fun t _ first hfirst => (hread t first hfirst).1
  have hwordings := readAll_forall₂ (f := wordingsIn) (fun _ _ => by simp [wordingsIn, named])
    (fun _ _ => List.flatMap_append) hitems fun t _ first hfirst => (hread t first hfirst).2
  obtain ⟨hextended, hset, hdefined⟩ := RuleSet.ofItems_eq_ok h
  have hbases : List.Forall₂ IsDefinition (definitions schema)
      ((items.filterMap SchemaItem.pattern?).flatMap
        fun p => p.2.filterMap PatternItem.abstract?) := by
    rw [definitions, rulesIn, List.filter_flatMap]
    exact List.rel_flatMap hpatterns fun _ _ hp => hp.abstracts
  have hrules := forall₂_comp hpatterns hextended fun t p pattern hp h => hp.isPattern hbases h
  refine ⟨hrules, ?_, ?_, ?_⟩
  · intro t ht u hu
    -- abstract rules extend nothing, and for concrete ones every name has been looked up
    cases habstract : isAbstract t with
    | true =>
      obtain ⟨a, -, ha⟩ := exists_right_of_forall₂ hbases (List.mem_filter.2 ⟨ht, habstract⟩)
      rw [ha.extends_nil] at hu
      cases hu
    | false =>
      obtain ⟨p, hp, ht⟩ := List.mem_flatMap.1 ht
      obtain ⟨pattern, -, hpattern⟩ := exists_right_of_forall₂ hrules hp
      have hconcrete : t ∈ concreteIn p := List.mem_filter.2 ⟨ht, by simp [habstract]⟩
      obtain ⟨rule, -, hrule⟩ := exists_right_of_forall₂ hpattern.rules hconcrete
      obtain ⟨lent, hlent, -, -⟩ := hrule.parts
      obtain ⟨base, -, hbase⟩ := exists_right_of_forall₂ hlent hu
      exact ⟨base, hbase⟩
  · intro id
    rw [RuleSet.wording?, List.find?_isSome, hset]
    simp only [List.mem_reverse, decide_eq_true_eq]
    constructor
    · rintro ⟨w, hw, rfl⟩
      exact exists_left_of_forall₂ hwordings hw
    · rintro ⟨u, hu, hid⟩
      obtain ⟨w, hw, hid'⟩ := exists_right_of_forall₂ hwordings hu
      exact ⟨w, hw, Option.some.inj (hid'.symm.trans hid)⟩
  · intro p hp rule hrule check hcheck id hid
    refine hdefined id (List.mem_flatMap.2 ⟨p, hp, List.mem_flatMap.2 ⟨rule, hrule, ?_⟩⟩)
    exact List.mem_flatMap.2 ⟨check, hcheck, hid⟩

/-- **What a schema lacks**: an abstract rule that some rule extends, or a wording that some check of a
concrete rule refers to, be it its own or one that it takes over. -/
inductive Lacks (schema : List Tree) : Prop
  | base {t u : Tree} {id : String} (ht : t ∈ rulesIn schema) (hu : u ∈ extendsIn t)
    (hid : attribute? "rule" u = some id) (h : ∀ d ∈ definitions schema, attribute? "id" d ≠ some id)
  | wording {p t u : Tree} {lent : List Tree} {id : String} (hp : p ∈ named "pattern" schema)
    (ht : t ∈ concreteIn p) (hlent : List.Forall₂ (Extends schema) (extendsIn t) lent)
    (hu : u ∈ (t :: lent).flatMap checksIn) (hid : id ∈ references u)
    (h : ∀ w ∈ wordingsIn schema, attribute? "id" w ≠ some id)

/-- A schema that has a rule set lacks nothing. -/
theorem RuleSet.Expands.not_lacks {schema : List Tree} {set : RuleSet} (h : set.Expands schema) :
    ¬Lacks schema := by
  intro hlacks
  cases hlacks with
  | @base t u id ht hu hid hno =>
    obtain ⟨d, id', hid', before, after, hsplit, hd, -⟩ := h.extends_defined t ht u hu
    obtain rfl : id = id' := Option.some.inj (hid.symm.trans hid')
    exact hno d (hsplit ▸ List.mem_append_right _ List.mem_cons_self) hd
  | @wording p t u lent id hp ht hlent hu hid hno =>
    obtain ⟨pattern, hpattern, hisPattern⟩ := exists_right_of_forall₂ h.patterns hp
    obtain ⟨rule, hrule, hisRule⟩ := exists_right_of_forall₂ hisPattern.rules ht
    obtain ⟨lent', hlent', -, hchecks⟩ := hisRule.parts
    -- a rule takes over from one list of abstract rules only
    obtain rfl := (rightUnique_extends schema).forall₂ hlent hlent'
    obtain ⟨check, hcheck, hisCheck⟩ := exists_right_of_forall₂ hchecks hu
    have hdefined := h.wordings_defined pattern hpattern rule hrule check hcheck id
      (hisCheck.wordings ▸ hid)
    obtain ⟨w, hw, hwid⟩ := (h.wording_iff id).1 hdefined
    exact hno w hw hwid

/-! ## Rule files -/

/-- **Extension does not depend on where abstract rules are defined.**

* Where a rule file can be parsed, its rule set has the concrete rules of each pattern, in their order
  and no abstract ones; each of them has its own variables and checks and then those of the abstract
  rules that it extends, as they are defined last in the file with all its inclusions.
* A rule file is not parsed if some rule in it extends what is no abstract rule, or if a check of a
  concrete rule, its own or one that it takes over, refers to a wording that is not there. -/
theorem extension_independent (r : Reader) (path : Path) (source : List UInt8) :
    (∀ set, RuleSet.parse r path source = .ok set →
      ∃ schema, r.Unfolds path source schema ∧ set.Expands schema) ∧
    ∀ schema, r.Unfolds path source schema → Lacks schema →
      ∀ set, RuleSet.parse r path source ≠ .ok set := by
  have hparsed : ∀ set, RuleSet.parse r path source = .ok set →
      ∃ schema, r.Unfolds path source schema ∧ set.Expands schema := by
    intro set h
    obtain ⟨schema, items, hunfolds, hset, hitems⟩ := exists_unfolds h
    -- what is read if no inclusion may be followed has none
    have hread := toOption_eq_some.1 (hitems (r, path, 0))
    have hmoved : RuleSet.ofItems path (items.map (·.inFile path)) = .ok set := by
      rw [← toOption_eq_some, RuleSet.ofItems_toOption, hset]
      rfl
    exact ⟨schema, hunfolds, RuleSet.expands hread hmoved⟩
  refine ⟨hparsed, fun schema hunfolds hlacks set h => ?_⟩
  obtain ⟨schema', hunfolds', hexpands⟩ := hparsed set h
  obtain rfl := hunfolds.unique hunfolds'
  exact hexpands.not_lacks hlacks

/-- A schema without inclusions stands as it is. -/
theorem unfolds_self {path : Path} {source : List UInt8} {t : Tree}
    (hparse : Tree.parse source = .ok t) (hschema : isElement "schema" t)
    (hno : ∀ u ∈ inside t, isInclusion u = false ∧ ∀ v ∈ inside u, isInclusion v = false) :
    r.Unfolds path source (inside t) := by
  cases t with
  | text line s => cases hschema
  | element line e children =>
    refine ⟨line, e, children, hparse, hschema, List.forall₂_same.2 fun u hu => ?_⟩
    obtain ⟨hself, hinside⟩ := hno u hu
    refine ⟨path, u, .itself hself, ?_⟩
    cases u with
    | text line s => rfl
    | element line' e' children' =>
      have hkept : List.Forall₂ (r.InPattern path) children' children' :=
        List.forall₂_same.2 fun v hv => ⟨path, .itself (hinside v hv)⟩
      rw [Reader.Inside]
      split
      · exact ⟨children', rfl, hkept⟩
      · rfl

/-- A rule takes over the checks of an abstract rule that is defined behind it, in another pattern of
an included file, rather than those of one in its own pattern; without that, it is an error. -/
theorem extension_independent_late :
    let declared := " xmlns='http://purl.oclc.org/dsdl/schematron'"
    let ruleText := "<rule context='a'><extends rule='b'/><assert test='c' id='own'/></rule>"
    let mainText := ("<schema" ++ declared ++ "><pattern>" ++ ruleText ++
      "<rule abstract='true' id='b'/></pattern><include href='late'/></schema>").toUTF8.toList
    let lateText := ("<pattern" ++ declared ++
      "><rule abstract='true' id='b'><report test='d' id='lent'/></rule></pattern>").toUTF8.toList
    let loneText := ("<schema" ++ declared ++ "><pattern>" ++ ruleText ++
      "</pattern></schema>").toUTF8.toList
    let r : Reader :=
      { files := ⟨[(["late"], some (.file lateText))], []⟩, search := .ofDirectory (.ofText "/") }
    let path := Path.ofText "/main"
    (∃ set schema, RuleSet.parse r path mainText = .ok set ∧
      (set.patterns.map fun p => p.rules.map fun rule => rule.checks.map (·.id)) =
        [[[some "own", some "lent"]], []] ∧
      r.Unfolds path mainText schema ∧ set.Expands schema) ∧
    ∃ schema, r.Unfolds path loneText schema ∧ Lacks schema ∧
      ∀ set, RuleSet.parse r path loneText ≠ .ok set := by
  intro declared ruleText mainText lateText loneText r path
  have hmain : (RuleSet.parse r path mainText).toOption.any (fun set =>
      (set.patterns.map fun p => p.rules.map fun rule => rule.checks.map (·.id)) =
        [[[some "own", some "lent"]], []]) = true := by decide +kernel
  have hlone : (Tree.parse loneText).toOption.any (fun t => isElement "schema" t &&
      ((inside t).all fun u => !isInclusion u && (inside u).all fun v => !isInclusion v) &&
      ((rulesIn (inside t)).any fun rule =>
        (extendsIn rule).any fun u => attribute? "rule" u = some "b") &&
      (definitions (inside t)).isEmpty) = true := by decide +kernel
  obtain ⟨set, hset, hids⟩ := (Option.any_eq_true _ _).1 hmain
  replace hset := toOption_eq_some.1 hset
  obtain ⟨schema, hunfolds, hexpands⟩ := (extension_independent r path mainText).1 set hset
  obtain ⟨t, ht, h⟩ := (Option.any_eq_true _ _).1 hlone
  simp only [Bool.and_eq_true, List.all_eq_true, List.any_eq_true, Bool.not_eq_true',
    decide_eq_true_eq, List.isEmpty_iff] at h
  obtain ⟨⟨⟨hschema, hno⟩, rule, hrule, u, hu, hid⟩, hnone⟩ := h
  have hself : r.Unfolds path loneText (inside t) :=
    unfolds_self (toOption_eq_some.1 ht) hschema hno
  have hlacks : Lacks (inside t) := .base hrule hu hid fun d hd => by
    rw [hnone] at hd
    cases hd
  exact ⟨⟨set, schema, hset, of_decide_eq_true hids, hunfolds, hexpands⟩, inside t, hself, hlacks,
    (extension_independent r path loneText).2 _ hself hlacks⟩

end XmlAudit.Schematron
