import XmlAudit.Proofs.XPath.NodeSets
import XmlAudit.Proofs.XPath.WellFormed

/-!
# Why expressions fail

* `Explains`: what in an expression makes its evaluation fail, one case for each kind of fault.
* `Function.apply_error`: the faults of a function that has as many arguments as it takes.
* `Expr.eval_explains`: whenever a well-formed expression fails, something in it explains the fault.
* `splitAtText_append`: texts are cut between characters.
* `compiled_fails_only_if`: what a compiled expression can fail of.
-/

namespace XmlAudit.XPath

/-! ## Parts of expressions -/

/-- The functions that need their first argument to be nodes. -/
def Function.needsNodes : Function → Bool
  | count | localName | namespaceUri | name | stringJoin | sum => Bool.true
  | _ => Bool.false

/-- Whether a value is a set of nodes. -/
def Value.isNodes : Value → Bool
  | nodes _ => true
  | _ => false

/-- The qualifier whose namespace a node test asks for. -/
def NodeTest.qualifier? : NodeTest → Option String
  | named (.name q _) => q
  | named (.anyIn q) => some q
  | _ => none

/-- The expressions that an expression is made of: operands, predicates and arguments. -/
def Expr.parts : Expr → List Expr
  | .or left right | .and left right | .compare _ left right | .arithmetic _ left right
  | .union left right => [left, right]
  | .negate operand => [operand]
  | .path _ steps => steps.flatMap Step.predicates
  | .filter primary predicates steps => primary :: (predicates ++ steps.flatMap Step.predicates)
  | .call _ arguments => arguments
  | .literal _ | .number _ | .variable _ => []

/-- The location steps of an expression. -/
def Expr.steps : Expr → List Step
  | .path _ steps | .filter _ _ steps => steps
  | _ => []

/-- A prefix that an expression may not use. -/
def Undeclared (c : Context) (qualifier : String) : Prop :=
  qualifier ≠ "xml" ∧ c.namespaces.uri? (some qualifier) = none

/-- The values of arguments at a focus. -/
def HaveValues (c : Context) (focus : Focus) (arguments : List Expr) (values : List Value) : Prop :=
  List.Forall₂ (fun e v => e.eval c focus = .ok v) arguments values

/-- **What explains a fault**: an operand or argument that has a value other than nodes where nodes
are needed, a variable without value, a prefix without namespace or a pattern that is no regular
expression, in the expression or in a part of it. Nothing explains a missing argument. -/
inductive Explains (c : Context) : Expr → EvalFault → Prop
  | part {e part fault} (hpart : part ∈ e.parts) (h : Explains c part fault) : Explains c e fault
  | united {left right operand focus v} (hoperand : operand ∈ [left, right])
    (hv : operand.eval c focus = .ok v) (hno : v.isNodes = false) :
    Explains c (.union left right) (.nodesNeeded "|")
  | filtered {primary predicates steps focus v} (hv : primary.eval c focus = .ok v)
    (hno : v.isNodes = false) :
    Explains c (.filter primary predicates steps) (.nodesNeeded "a predicate or path step")
  | argument {f first later focus v} (hf : f.needsNodes) (hv : first.eval c focus = .ok v)
    (hno : v.isNodes = false) : Explains c (.call f (first :: later)) (.nodesNeeded argumentUser)
  | unbound {x} (h : c.bindings.lookup x = none) : Explains c (.variable x) (.unboundVariable x)
  | undeclared {e s q} (hs : s ∈ e.steps) (hq : s.test.qualifier? = some q) (h : Undeclared c q) :
    Explains c e (.undeclaredPrefix q)
  | pattern {arguments focus s p flags} (hvs : HaveValues c focus arguments (s :: p :: flags))
    (h : Regex.parse? ((flags.head?.map (·.toText c.document)).getD "") (p.toText c.document) = none) :
    Explains c (.call .matches arguments) .invalidRegex

theorem Explains.ne_missingArgument {c : Context} {e : Expr} {fault : EvalFault}
    (h : Explains c e fault) (f : String) : fault ≠ .missingArgument f := by
  induction h with
  | part _ _ ih => exact ih
  | _ => exact EvalFault.noConfusion

/-! ## Names and functions -/

variable {c : Context} {focus : Focus} {fault : EvalFault}

theorem resolveQualifier_eq_error {q : String}
    (h : resolveQualifier c.namespaces q = .error fault) :
    fault = .undeclaredPrefix q ∧ Undeclared c q := by
  unfold resolveQualifier at h
  split at h
  · cases h
  · next hxml =>
    split at h
    · cases h
    · next hno =>
      cases h
      exact ⟨rfl, hxml, hno⟩

theorem accepts_eq_error {test : NameTest} {l : String} {uri : Option String}
    (h : test.accepts c.namespaces l uri = .error fault) :
    ∃ q, (NodeTest.named test).qualifier? = some q ∧ fault = .undeclaredPrefix q ∧
      Undeclared c q := by
  unfold NameTest.accepts at h
  split at h
  · cases h
  · cases h
  · exact ⟨_, rfl, resolveQualifier_eq_error (map_eq_error.1 h)⟩
  · cases h
  · exact ⟨_, rfl, resolveQualifier_eq_error (map_eq_error.1 h)⟩

/-- Only names with a prefix make a node test fail. -/
theorem satisfies_eq_error {axis : Axis} {test : NodeTest} {n : Node}
    (h : n.satisfies c.document c.namespaces axis test = .error fault) :
    ∃ q, test.qualifier? = some q ∧ fault = .undeclaredPrefix q ∧ Undeclared c q := by
  unfold Node.satisfies at h
  split at h
  · split at h
    · cases h
    · split at h
      · cases h
      · cases h
      · split at h
        · exact accepts_eq_error h
        · cases h
  · split at h
    · cases h
    · cases h
    · split at h
      · split at h
        · cases h
        · exact accepts_eq_error h
      · cases h

theorem toNodes_eq_error {user : String} {v : Value} :
    v.toNodes user = .error fault ↔ v.isNodes = false ∧ fault = .nodesNeeded user := by
  cases v <;> simp [Value.toNodes, Value.isNodes, eq_comm]

theorem occursPattern_eq_error {s pattern flags : String}
    (h : occursPattern s pattern flags = .error fault) :
    fault = .invalidRegex ∧ Regex.parse? flags pattern = none := by
  unfold occursPattern at h
  split at h
  · cases h
  · next hno =>
    cases h
    exact ⟨rfl, hno⟩

/-- What makes a function fail that has as many arguments as it takes. -/
def FailsOn (c : Context) (f : Function) (args : List Value) (fault : EvalFault) : Prop :=
  (∃ v later, args = v :: later ∧ f.needsNodes ∧ v.isNodes = false ∧
      fault = .nodesNeeded argumentUser) ∨
    ∃ s p flags, args = s :: p :: flags ∧ f = .matches ∧ fault = .invalidRegex ∧
      Regex.parse? ((flags.head?.map (·.toText c.document)).getD "") (p.toText c.document) = none

theorem failsOn_first {f : Function} {v : Value} {later : List Value} {α : Type}
    {g : List Node → Except EvalFault α} (hf : f.needsNodes)
    (hg : ∀ ns, ∃ a, g ns = .ok a) (h : (v.toNodes argumentUser >>= g) = .error fault) :
    FailsOn c f (v :: later) fault := by
  rcases bind_eq_error.1 h with h | ⟨ns, -, h⟩
  · obtain ⟨hno, rfl⟩ := toNodes_eq_error.1 h
    exact .inl ⟨v, later, rfl, hf, hno, rfl⟩
  · obtain ⟨a, ha⟩ := hg ns
    rw [ha] at h
    cases h

/-- **A function that has as many arguments as it takes** fails only of arguments that are no nodes
and of patterns. -/
theorem Function.apply_error {f : Function} {args : List Value} (ha : f.accepts args.length)
    (h : f.apply c focus args = .error fault) : FailsOn c f args fault := by
  -- no function reads an argument beyond the third, and no number of arguments below what it takes
  cases f <;> rcases args with _ | ⟨v, _ | ⟨w, _ | ⟨x, later⟩⟩⟩ <;> try cases ha
  all_goals first
    | cases h
    | exact failsOn_first rfl (fun ns => ⟨_, rfl⟩) h
    | skip
  case «matches».cons.cons.nil =>
    obtain ⟨rfl, hno⟩ := occursPattern_eq_error h
    exact .inr ⟨_, _, _, rfl, rfl, rfl, hno⟩
  case «matches».cons.cons.cons =>
    obtain ⟨rfl, hno⟩ := occursPattern_eq_error h
    exact .inr ⟨_, _, _, rfl, rfl, rfl, hno⟩

theorem evalEach_eq_map {es : List Expr} :
    evalEach c es focus = es.map fun e => e.eval c focus := by
  induction es with
  | nil => rfl
  | cons e es ih => rw [evalEach, ih, List.map_cons]

/-- The values of arguments, in whichever order they are looked at. -/
theorem Function.collect_eq_ok {f : Function} {arguments : List Expr} {values : List Value}
    (h : f.collect (evalEach c arguments focus) = .ok values) :
    HaveValues c focus arguments values := by
  have hmap : ∀ {es vs}, (es.map fun e => Expr.eval c e focus).mapM id = .ok vs →
      HaveValues c focus es vs := by
    intro es vs h
    have hvs := mapM_eq_ok.1 h
    rwa [List.forall₂_map_left_iff] at hvs
  rw [collect, evalEach_eq_map] at h
  split at h
  · obtain ⟨vs, hvs, h⟩ := bind_eq_ok.1 h
    cases h
    rw [← List.map_reverse] at hvs
    exact List.forall₂_reverse_iff.1 (by rw [List.reverse_reverse]; exact hmap hvs)
  · exact hmap h

theorem Function.collect_eq_error {f : Function} {results : List (Except EvalFault Value)}
    (h : f.collect results = .error fault) : .error fault ∈ results := by
  rw [collect] at h
  split at h
  · rcases bind_eq_error.1 h with h | ⟨vs, -, h⟩
    · obtain ⟨r, hr, hfault⟩ := mapM_eq_error h
      obtain rfl : r = .error fault := hfault
      exact List.mem_reverse.1 hr
    · cases h
  · obtain ⟨r, hr, hfault⟩ := mapM_eq_error h
    obtain rfl : r = .error fault := hfault
    exact hr

/-! ## Expressions -/

/-- What explains a fault of a step: one of its predicates or the prefix of its node test. -/
def Step.Explains (c : Context) (s : Step) (fault : EvalFault) : Prop :=
  (∃ e ∈ s.predicates, XPath.Explains c e fault) ∨
    ∃ q, s.test.qualifier? = some q ∧ fault = .undeclaredPrefix q ∧ Undeclared c q

theorem predicates_subset {s : Step} {steps : List Step} (h : s ∈ steps) :
    s.predicates ⊆ steps.flatMap Step.predicates :=
  fun _ he => List.mem_flatMap.2 ⟨s, h, he⟩

theorem filterFrom_eq_error {holds : Focus → Except EvalFault Bool} {size position : Nat}
    {ns : List Node} (h : filterFrom holds size position ns = .error fault) :
    ∃ focus, holds focus = .error fault := by
  induction ns generalizing position with
  | nil => cases h
  | cons n ns ih =>
    rcases bind_eq_error.1 h with h | ⟨keep, -, h⟩
    · exact ⟨_, h⟩
    · rcases bind_eq_error.1 h with h | ⟨later, -, h⟩
      · exact ih h
      · cases h

/-- What explains a fault of a step does so in an expression with this step. -/
theorem Step.Explains.expr {s : Step} {e : Expr} (h : s.Explains c fault) (hs : s ∈ e.steps)
    (hparts : s.predicates ⊆ e.parts) : XPath.Explains c e fault := by
  rcases h with ⟨part, hpart, h⟩ | ⟨q, hq, rfl, h⟩
  · exact .part (hparts hpart) h
  · exact .undeclared hs hq h

mutual

/-- **Whenever a well-formed expression fails, something in it explains the fault.** -/
theorem Expr.eval_explains : ∀ (e : Expr), e.WellFormed → ∀ {focus : Focus} {fault : EvalFault},
    e.eval c focus = .error fault → Explains c e fault
  | .or left right, ⟨hl, hr⟩, focus, fault, h => by
    rw [Expr.eval] at h
    rcases bind_eq_error.1 h with h | ⟨a, -, h⟩
    · exact .part List.mem_cons_self (left.eval_explains hl h)
    · split at h
      · cases h
      · rcases bind_eq_error.1 h with h | ⟨b, -, h⟩
        · exact .part (List.mem_cons_of_mem _ List.mem_cons_self) (right.eval_explains hr h)
        · cases h
  | .and left right, ⟨hl, hr⟩, focus, fault, h => by
    rw [Expr.eval] at h
    rcases bind_eq_error.1 h with h | ⟨a, -, h⟩
    · exact .part List.mem_cons_self (left.eval_explains hl h)
    · split at h
      · rcases bind_eq_error.1 h with h | ⟨b, -, h⟩
        · exact .part (List.mem_cons_of_mem _ List.mem_cons_self) (right.eval_explains hr h)
        · cases h
      · cases h
  | .compare op left right, ⟨hl, hr⟩, focus, fault, h
  | .arithmetic op left right, ⟨hl, hr⟩, focus, fault, h => by
    rw [Expr.eval] at h
    rcases bind_eq_error.1 h with h | ⟨a, -, h⟩
    · exact .part List.mem_cons_self (left.eval_explains hl h)
    · rcases bind_eq_error.1 h with h | ⟨b, -, h⟩
      · exact .part (List.mem_cons_of_mem _ List.mem_cons_self) (right.eval_explains hr h)
      · cases h
  | .negate operand, ho, focus, fault, h => by
    rw [Expr.eval] at h
    rcases bind_eq_error.1 h with h | ⟨a, -, h⟩
    · exact .part List.mem_cons_self (operand.eval_explains ho h)
    · cases h
  | .union left right, ⟨hl, hr⟩, focus, fault, h => by
    rw [Expr.eval] at h
    rcases bind_eq_error.1 h with h | ⟨a, ha, h⟩
    · exact .part List.mem_cons_self (left.eval_explains hl h)
    rcases bind_eq_error.1 h with h | ⟨as, -, h⟩
    · obtain ⟨hno, rfl⟩ := toNodes_eq_error.1 h
      exact .united List.mem_cons_self ha hno
    rcases bind_eq_error.1 h with h | ⟨b, hb, h⟩
    · exact .part (List.mem_cons_of_mem _ List.mem_cons_self) (right.eval_explains hr h)
    rcases bind_eq_error.1 h with h | ⟨bs, -, h⟩
    · obtain ⟨hno, rfl⟩ := toNodes_eq_error.1 h
      exact .united (List.mem_cons_of_mem _ List.mem_cons_self) hb hno
    · cases h
  | .path absolute steps, ⟨_, hs⟩, focus, fault, h => by
    rw [Expr.eval] at h
    rcases bind_eq_error.1 h with h | ⟨ns, -, h⟩
    · obtain ⟨s, hmem, hs⟩ := walk_explains steps hs h
      exact hs.expr hmem (predicates_subset hmem)
    · cases h
  | .filter primary predicates steps, ⟨_, hp, hps, hs⟩, focus, fault, h => by
    rw [Expr.eval] at h
    rcases bind_eq_error.1 h with h | ⟨v, hv, h⟩
    · exact .part List.mem_cons_self (primary.eval_explains hp h)
    rcases bind_eq_error.1 h with h | ⟨ns, -, h⟩
    · obtain ⟨hno, rfl⟩ := toNodes_eq_error.1 h
      exact .filtered hv hno
    rcases bind_eq_error.1 h with h | ⟨kept, -, h⟩
    · obtain ⟨e, he, h⟩ := keepAll_explains predicates hps h
      exact .part (List.mem_cons_of_mem _ (List.mem_append_left _ he)) h
    rcases bind_eq_error.1 h with h | ⟨reached, -, h⟩
    · obtain ⟨s, hmem, hs⟩ := walk_explains steps hs h
      refine hs.expr hmem fun e he => ?_
      exact List.mem_cons_of_mem _ (List.mem_append_right _ (predicates_subset hmem he))
    · cases h
  | .literal s, _, focus, fault, h => by
    rw [Expr.eval] at h
    cases h
  | .number x, _, focus, fault, h => by
    rw [Expr.eval] at h
    cases h
  | .variable x, _, focus, fault, h => by
    rw [Expr.eval] at h
    split at h
    · cases h
    · next hno =>
      cases h
      exact .unbound hno
  | .call f arguments, ⟨ha, hes⟩, focus, fault, h => by
    rw [Expr.eval] at h
    rcases bind_eq_error.1 h with h | ⟨values, hvalues, h⟩
    · obtain ⟨e, he, h⟩ := evalEach_explains arguments hes (Function.collect_eq_error h)
      exact .part he h
    · have hvs := Function.collect_eq_ok hvalues
      rw [hvs.length_eq] at ha
      rcases Function.apply_error ha h with
        ⟨v, later, rfl, hf, hno, rfl⟩ | ⟨s, p, flags, rfl, rfl, rfl, hno⟩
      · obtain ⟨first, es, hv, -, rfl⟩ := List.forall₂_cons_right_iff.1 hvs
        exact .argument hf hv hno
      · exact .pattern hvs hno

theorem evalEach_explains : ∀ (es : List Expr), AllWellFormed es → ∀ {focus : Focus}
    {fault : EvalFault}, .error fault ∈ evalEach c es focus → ∃ e ∈ es, Explains c e fault
  | [], _, focus, fault, h => by
    rw [evalEach] at h
    cases h
  | e :: es, ⟨he, hes⟩, focus, fault, h => by
    rw [evalEach] at h
    rcases List.mem_cons.1 h with h | h
    · exact ⟨e, List.mem_cons_self, e.eval_explains he h.symm⟩
    · obtain ⟨e', he', h⟩ := evalEach_explains es hes h
      exact ⟨e', List.mem_cons_of_mem _ he', h⟩

theorem keepAll_explains : ∀ (es : List Expr), AllWellFormed es → ∀ {ns : List Node}
    {fault : EvalFault}, keepAll c es ns = .error fault → ∃ e ∈ es, Explains c e fault
  | [], _, ns, fault, h => by
    rw [keepAll] at h
    cases h
  | e :: es, ⟨he, hes⟩, ns, fault, h => by
    rw [keepAll] at h
    rcases bind_eq_error.1 h with h | ⟨kept, -, h⟩
    · obtain ⟨focus, h⟩ := filterFrom_eq_error h
      rcases bind_eq_error.1 h with h | ⟨v, -, h⟩
      · exact ⟨e, List.mem_cons_self, e.eval_explains he h⟩
      · cases h
    · obtain ⟨e', he', h⟩ := keepAll_explains es hes h
      exact ⟨e', List.mem_cons_of_mem _ he', h⟩

theorem Step.from_explains : ∀ (s : Step), s.WellFormed → ∀ {n : Node} {fault : EvalFault},
    s.from c n = .error fault → s.Explains c fault
  | .mk axis test predicates, ⟨_, hp⟩, n, fault, h => by
    rw [Step.from] at h
    rcases bind_eq_error.1 h with h | ⟨ns, -, h⟩
    · obtain ⟨m, -, h⟩ := filterM_eq_error h
      exact .inr (satisfies_eq_error h)
    · exact .inl (keepAll_explains predicates hp h)

theorem walk_explains : ∀ (steps : List Step), StepsWellFormed steps → ∀ {ns : List Node}
    {fault : EvalFault}, walk c steps ns = .error fault → ∃ s ∈ steps, s.Explains c fault
  | [], _, ns, fault, h => by
    rw [walk] at h
    cases h
  | s :: rest, ⟨hs, hrest⟩, ns, fault, h => by
    rw [walk] at h
    rcases bind_eq_error.1 h with h | ⟨reached, -, h⟩
    · obtain ⟨n, -, h⟩ := mapM_eq_error h
      exact ⟨s, List.mem_cons_self, s.from_explains hs h⟩
    · obtain ⟨s', hs', h⟩ := walk_explains rest hrest h
      exact ⟨s', List.mem_cons_of_mem _ hs', h⟩

end

/-! ## Compiled expressions -/

/-- The expression that a pattern is made stays well formed. -/
theorem Expr.anchor?_wellFormed : ∀ {e e' : Expr}, e.anchor? = some e' → e.WellFormed → e'.WellFormed
  | .union left right, e', h, ⟨hl, hr⟩ => by
    rw [anchor?] at h
    split at h
    · next l r hleft hright =>
      cases h
      exact ⟨anchor?_wellFormed hleft hl, anchor?_wellFormed hright hr⟩
    · cases h
  | .path false steps, e', h, ⟨_, hs⟩ => by
    cases h
    exact ⟨.inl rfl, ⟨trivial, trivial⟩, hs⟩
  | .path true steps, e', h, hwf => by
    cases h
    exact hwf
  | .filter primary predicates steps, e', h, hwf => by
    cases h
    exact hwf

/-- **A compiled expression is well formed**, also one that is made of a pattern. -/
theorem Query.wellFormed_of_compile {source : String} {q : Query}
    (h : compile source = .ok q ∨ compilePattern source = .ok q) :
    q.source = source ∧ q.expr.WellFormed := by
  have hcompile : ∀ {q}, compile source = .ok q → q.source = source ∧ q.expr.WellFormed := by
    intro q h
    unfold compile at h
    split at h
    · next e he =>
      cases h
      exact ⟨rfl, e.wellFormed_of_parse he⟩
    · cases h
  rcases h with h | h
  · exact hcompile h
  · obtain ⟨query, hquery, h⟩ := bind_eq_ok.1 h
    obtain ⟨-, hwf⟩ := hcompile hquery
    split at h
    · next e he =>
      cases h
      exact ⟨rfl, Expr.anchor?_wellFormed he hwf⟩
    · cases h

/-! ## Cutting texts -/

/-- A text is made up of what is before the first occurrence of another, this, and what is behind. -/
theorem splitAtText_append {part s : List Char} {before after : List Char}
    (h : splitAtText part s = some (before, after)) : s = before ++ part ++ after := by
  induction s generalizing before with
  | nil =>
    rw [splitAtText] at h
    split at h
    · next hpart =>
      cases h
      rw [List.isEmpty_iff.1 hpart]
      rfl
    · cases h
  | cons c cs ih =>
    rw [splitAtText] at h
    split at h
    · next hprefix =>
      cases h
      obtain ⟨rest, hrest⟩ := List.isPrefixOf_iff_prefix.1 hprefix
      rw [← hrest, List.drop_left, List.nil_append]
    · obtain ⟨⟨b, a⟩, hr, heq⟩ := Option.map_eq_some_iff.1 h
      cases heq
      rw [ih hr, List.cons_append, List.cons_append]

theorem textBefore_append_textAfter {s part : String}
    (h : (splitAtText part.toList s.toList).isSome) :
    s = textBefore s part ++ part ++ textAfter s part := by
  obtain ⟨⟨before, after⟩, hsplit⟩ := Option.isSome_iff_exists.1 h
  rw [textBefore, textAfter, hsplit]
  apply String.toList_inj.1
  simpa using splitAtText_append hsplit

/-- **A compiled expression has a value, or something in it explains why not**, and this is never an
argument that is missing. Texts are cut between characters: both ends of a part that is looked for,
as offsets in bytes, are positions of the text. -/
theorem compiled_fails_only_if {source : String} {q : Query}
    (h : Query.compile source = .ok q ∨ Query.compilePattern source = .ok q) (c : Context)
    (n : Node) :
    ((∃ v, q.evaluate c n = .ok v) ∨
      ∃ fault, q.evaluate c n = .error ⟨source, fault.message⟩ ∧ Explains c q.expr fault ∧
        ∀ f, fault ≠ .missingArgument f) ∧
    ∀ s part : String, (splitAtText part.toList s.toList).isSome →
      s = textBefore s part ++ part ++ textAfter s part ∧
        (textBefore s part).rawEndPos.IsValid s ∧
        (textBefore s part ++ part).rawEndPos.IsValid s := by
  obtain ⟨rfl, hwf⟩ := Query.wellFormed_of_compile h
  constructor
  · cases hv : q.expr.eval c (.on n) with
    | ok v => exact .inl ⟨v, Query.evaluate_eq_ok.2 hv⟩
    | error fault =>
      have hexplains := q.expr.eval_explains hwf hv
      refine .inr ⟨fault, ?_, hexplains, hexplains.ne_missingArgument⟩
      rw [Query.evaluate, hv]
      rfl
  · intro s part hpart
    have hs := textBefore_append_textAfter hpart
    refine ⟨hs, ?_, ?_⟩
    · exact String.Pos.Raw.isValid_iff_exists_append.2
        ⟨_, part ++ textAfter s part, by rw [← String.append_assoc]; exact hs, rfl⟩
    · exact String.Pos.Raw.isValid_iff_exists_append.2 ⟨_, textAfter s part, hs, rfl⟩

/-- The union of the root and a number: it compiles, it fails, and something explains why. -/
theorem compiled_fails_only_if_united :
    ∃ (c : Context) (q : Query) (fault : EvalFault), Query.compile "/|7" = .ok q ∧
      fault.message = "| requires a node-set operand" ∧
      q.evaluate c rootNode = .error ⟨"/|7", fault.message⟩ ∧ Explains c q.expr fault := by
  let c : Context := ⟨.ofTree (.element 1 ⟨⟨none, "a"⟩, none, [], []⟩ []), .empty, [], rootNode⟩
  let q : Query := ⟨"/|7", .union (.path true []) (.number (Number.Decimal.read false ['7']))⟩
  have hq : Query.compile "/|7" = .ok q := by rfl
  have hfails : q.evaluate c rootNode = .error ⟨"/|7", "| requires a node-set operand"⟩ := by rfl
  obtain ⟨⟨v, hv⟩ | ⟨fault, hfault, hexplains, -⟩, -⟩ :=
    compiled_fails_only_if (.inl hq) c rootNode
  · rw [hfails] at hv
    cases hv
  · have hmessage := hfails.symm.trans hfault
    rw [Except.error.injEq, Failure.mk.injEq] at hmessage
    exact ⟨c, q, fault, hq, hmessage.2.symm, hfault, hexplains⟩

end XmlAudit.XPath
