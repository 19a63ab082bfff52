import XmlAudit.Proofs.XPath.NodeSets
import XmlAudit.Schematron.Firing

/-!
# What rules find

The meaning of rules, told without the order in which contexts are evaluated.

* `Binds`: the values of variables.
* `Selects`, `Fires`: the nodes of a context, and the rule that handles a node.
* `CheckFinds`, `RuleFinds`, `PatternFinds`, `Finds`: what checks, rules, patterns and rule sets find.
* `findings_spec`: rules find exactly that, pattern by pattern.
-/

namespace XmlAudit.Schematron

open Xml (Document Namespaces)
open XPath (Node Value Context Failure Query)

/-! ## The meaning of rules -/

section

variable (d : Document) (ns : Namespaces)

/-- **The values of variables at a node**, on top of other bindings: each is evaluated with the node
as the current one, sees the variables before it and then the other bindings, and hides those of its
name. -/
inductive Binds (n : Node) : List (String × Value) → List Binding → List (String × Value) → Prop
  | nil {vars} : Binds n vars [] vars
  | cons {vars vars' b v lets} (hv : b.value.evaluate ⟨d, ns, vars, n⟩ n = .ok v)
    (h : Binds n ((b.name, v) :: vars) lets vars') : Binds n vars (b :: lets) vars'

/-- The context of a rule selects a node. -/
def Selects (vars : List (String × Value)) (rule : Rule) (n : Node) : Prop :=
  ∃ nodes, rule.context.select ⟨d, ns, vars, XPath.rootNode⟩ XPath.rootNode = .ok nodes ∧ n ∈ nodes

/-- **The rule that handles a node** is the one with the lowest index whose context selects it. -/
def Fires (vars : List (String × Value)) (rules : List Rule) (n : Node) (rule : Rule) : Prop :=
  ∃ i : Nat, rules[i]? = some rule ∧ Selects d ns vars rule n ∧
    ∀ (j : Nat) (other : Rule), j < i → rules[j]? = some other → ¬ Selects d ns vars other n

end

/-- The finding of a check at a node. -/
def findingOf (d : Document) (n : Node) (check : Check) (kind : FindingKind) (text : String)
    (wordings : List WordedText) : Finding :=
  ⟨kind, check.id, check.flag, check.role, some check.test.source, some (locationOf d n), text,
    wordings⟩

/-- **What a check finds** where `c` is seen: a finding for an assertion that fails and for a report
that holds, and nothing otherwise. -/
inductive CheckFinds (r : RuleSet) (c : Context) (n : Node) (check : Check) : Option Finding → Prop
  | passed (hk : check.kind = .assert) (ht : check.test.evaluateBoolean c n = .ok true) :
    CheckFinds r c n check none
  | failed {text wordings} (hk : check.kind = .assert)
    (ht : check.test.evaluateBoolean c n = .ok false)
    (hm : renderMessage c n check.message = .ok text)
    (hw : wordingsAt r c n check = .ok wordings) :
    CheckFinds r c n check (some (findingOf c.document n check .failedAssert text wordings))
  | silent (hk : check.kind = .report) (ht : check.test.evaluateBoolean c n = .ok false) :
    CheckFinds r c n check none
  | reported {text wordings} (hk : check.kind = .report)
    (ht : check.test.evaluateBoolean c n = .ok true)
    (hm : renderMessage c n check.message = .ok text)
    (hw : wordingsAt r c n check = .ok wordings) :
    CheckFinds r c n check (some (findingOf c.document n check .successfulReport text wordings))

section

variable (d : Document) (ns : Namespaces) (r : RuleSet)

/-- **What a rule finds at a node**: what its checks find, in order, with its variables bound at the
node. -/
inductive RuleFinds (vars : List (String × Value)) (n : Node) (rule : Rule) : List Finding → Prop
  | mk {vars' outcomes} (hlets : Binds d ns n vars rule.lets vars')
    (hchecks : List.Forall₂ (CheckFinds r ⟨d, ns, vars', n⟩ n) rule.checks outcomes) :
    RuleFinds vars n rule (outcomes.flatMap Option.toList)

/-- **What a pattern finds**: with its variables bound at the root, what the rule that handles it
finds at each of the nodes that some context selects, each once, in document order. -/
inductive PatternFinds (outer : List (String × Value)) (p : Pattern) : List Finding → Prop
  | mk {vars nodes groups} (hlets : Binds d ns XPath.rootNode outer p.lets vars)
    (hcontexts : ∀ rule ∈ p.rules, ∃ selected,
      rule.context.select ⟨d, ns, vars, XPath.rootNode⟩ XPath.rootNode = .ok selected)
    (hordered : nodes.Pairwise Node.Before)
    (hnodes : ∀ n, n ∈ nodes ↔ ∃ rule ∈ p.rules, Selects d ns vars rule n)
    (hrules : List.Forall₂ (fun n group => ∃ rule, Fires d ns vars p.rules n rule ∧
      RuleFinds d ns r vars n rule group) nodes groups) :
    PatternFinds outer p groups.flatten

/-- **What a rule set finds**: with its variables bound at the root, what its patterns find, in
order. -/
inductive Finds : List Finding → Prop
  | mk {vars groups}
    (hlets : Binds d (.ofList r.namespaces) XPath.rootNode [] r.lets vars)
    (hpatterns : List.Forall₂ (PatternFinds d (.ofList r.namespaces) r vars) r.patterns groups) :
    Finds groups.flatten

end

variable {d : Document} {ns : Namespaces} {r : RuleSet} {vars vars' outer : List (String × Value)}
  {rules : List Rule} {rule last : Rule} {n : Node}

/-! ## Variables -/

theorem bind_eq_ok_iff {lets : List Binding} :
    bind d ns n outer lets = .ok vars ↔ Binds d ns n outer lets vars := by
  induction lets generalizing outer with
  | nil =>
    constructor
    · intro h; cases h; exact .nil
    · intro h; cases h; rfl
  | cons b lets ih =>
    rw [bind, List.foldlM_cons, bind_eq_ok]
    constructor
    · rintro ⟨m, hm, h⟩
      obtain ⟨v, hv, hm⟩ := bind_eq_ok.1 hm
      cases hm
      exact .cons hv (ih.1 h)
    · intro h
      cases h with
      | cons hv h => exact ⟨_, bind_eq_ok.2 ⟨_, hv, rfl⟩, ih.2 h⟩

/-- Nodes bound to variables are in document order. -/
theorem Binds.ordered {lets : List Binding} (h : Binds d ns n outer lets vars)
    (ho : XPath.OrderedBindings outer) : XPath.OrderedBindings vars := by
  induction h with
  | nil => exact ho
  | cons hv _ ih =>
    refine ih (List.forall_mem_cons.2 ⟨?_, ho⟩)
    exact XPath.Expr.eval_ordered ho _ (Query.evaluate_eq_ok.1 hv)

/-- Other names keep their values. -/
theorem Binds.lookup_of_notMem {lets : List Binding} {x : String} (h : Binds d ns n outer lets vars)
    (hx : x ∉ lets.map (·.name)) : vars.lookup x = outer.lookup x := by
  induction h with
  | nil => rfl
  | cons hv _ ih =>
    rw [List.map_cons, List.mem_cons, not_or] at hx
    rw [ih hx.2, List.lookup_cons, beq_false_of_ne hx.1]

/-- **The last variable of a name hides those before it**; it is evaluated where these are seen. -/
theorem Binds.lookup {before after : List Binding} {b : Binding}
    (h : Binds d ns n outer (before ++ b :: after) vars) (hb : b.name ∉ after.map (·.name)) :
    ∃ seen v, Binds d ns n outer before seen ∧ b.value.evaluate ⟨d, ns, seen, n⟩ n = .ok v ∧
      vars.lookup b.name = some v := by
  induction before generalizing outer with
  | nil =>
    cases h with
    | cons hv h => exact ⟨_, _, .nil, hv, by rw [h.lookup_of_notMem hb, List.lookup_cons_self]⟩
  | cons a before ih =>
    cases h with
    | cons hv h =>
      obtain ⟨seen, v, hseen, hval, hl⟩ := ih h
      exact ⟨seen, v, .cons hv hseen, hval, hl⟩

/-! ## The rule that handles a node -/

theorem selects_iff {nodes : List Node}
    (h : rule.context.select ⟨d, ns, vars, XPath.rootNode⟩ XPath.rootNode = .ok nodes) :
    Selects d ns vars rule n ↔ n ∈ nodes := by
  constructor
  · rintro ⟨nodes', h', hn⟩
    rw [h] at h'
    cases h'
    exact hn
  · exact fun hn => ⟨nodes, h, hn⟩

/-- A rule behind others handles what none of them does. -/
theorem fires_concat : Fires d ns vars (rules ++ [last]) n rule ↔
    Fires d ns vars rules n rule ∨
      rule = last ∧ Selects d ns vars last n ∧ ∀ other ∈ rules, ¬ Selects d ns vars other n := by
  -- the first rule that selects the node is among those before, or it is the last one
  constructor
  · rintro ⟨i, hi, hs, hfirst⟩
    rcases Nat.lt_or_ge i rules.length with hlt | hge
    · rw [List.getElem?_append_left hlt] at hi
      refine .inl ⟨i, hi, hs, fun j other hj ho => hfirst j other hj ?_⟩
      rw [List.getElem?_append_left (Nat.lt_trans hj hlt)]
      exact ho
    · rw [List.getElem?_append_right hge, List.getElem?_singleton] at hi
      split at hi
      · cases hi
        refine .inr ⟨rfl, hs, fun other ho => ?_⟩
        obtain ⟨j, hj⟩ := List.getElem?_of_mem ho
        have hjlt := (List.getElem?_eq_some_iff.1 hj).1
        refine hfirst j other (Nat.lt_of_lt_of_le hjlt hge) ?_
        rwa [List.getElem?_append_left hjlt]
      · cases hi
  · rintro (⟨i, hi, hs, hfirst⟩ | ⟨rfl, hs, hnone⟩)
    · have hlt := (List.getElem?_eq_some_iff.1 hi).1
      refine ⟨i, by rwa [List.getElem?_append_left hlt], hs, fun j other hj ho => ?_⟩
      rw [List.getElem?_append_left (Nat.lt_trans hj hlt)] at ho
      exact hfirst j other hj ho
    · refine ⟨rules.length, by simp, hs, fun j other hj ho => ?_⟩
      rw [List.getElem?_append_left hj] at ho
      exact hnone other (List.mem_of_getElem? ho)

theorem Fires.unique {rule' : Rule} (h : Fires d ns vars rules n rule)
    (h' : Fires d ns vars rules n rule') : rule = rule' := by
  obtain ⟨i, hi, hs, hfirst⟩ := h
  obtain ⟨j, hj, hs', hfirst'⟩ := h'
  rcases Nat.lt_trichotomy i j with hlt | rfl | hlt
  · exact absurd hs (hfirst' i rule hlt hi)
  · rw [hi] at hj
    exact Option.some.inj hj
  · exact absurd hs' (hfirst j rule' hlt hj)

/-- A node is handled if some context selects it. -/
theorem exists_fires_iff : (∃ rule, Fires d ns vars rules n rule) ↔
    ∃ rule ∈ rules, Selects d ns vars rule n := by
  constructor
  · rintro ⟨rule, i, hi, hs, -⟩
    exact ⟨rule, List.mem_of_getElem? hi, hs⟩
  · -- the last rule handles a node only if none before it does
    induction rules using List.reverseRecOn with
    | nil => simp
    | append_singleton rules last ih =>
      rintro ⟨rule, hrule, hs⟩
      by_cases hearlier : ∃ rule ∈ rules, Selects d ns vars rule n
      · obtain ⟨rule', h'⟩ := ih hearlier
        exact ⟨rule', fires_concat.2 (.inl h')⟩
      · have hlast : rule = last := by
          rcases List.mem_append.1 hrule with h | h
          · exact absurd ⟨rule, h, hs⟩ hearlier
          · exact List.mem_singleton.1 h
        subst hlast
        exact ⟨rule, fires_concat.2 (.inr ⟨rfl, hs, fun other ho hso => hearlier ⟨other, ho, hso⟩⟩)⟩

/-- What handling every node by its first rule gives, rule after rule. -/
structure Claimed (d : Document) (ns : Namespaces) (vars : List (String × Value))
    (rules : List Rule) (fired : List (Node × Rule)) : Prop where
  contexts : ∀ rule ∈ rules, ∃ selected,
    rule.context.select ⟨d, ns, vars, XPath.rootNode⟩ XPath.rootNode = .ok selected
  nodup : (fired.map (·.1)).Nodup
  mem_iff : ∀ f, f ∈ fired ↔ Fires d ns vars rules f.1 f.2

/-- The nodes handled are those that some context selects. -/
theorem Claimed.mem_iff_selects {fired : List (Node × Rule)} (h : Claimed d ns vars rules fired) :
    n ∈ fired.map (·.1) ↔ ∃ rule ∈ rules, Selects d ns vars rule n := by
  rw [← exists_fires_iff, List.mem_map]
  constructor
  · rintro ⟨f, hf, rfl⟩
    exact ⟨f.2, (h.mem_iff f).1 hf⟩
  · rintro ⟨rule, hr⟩
    exact ⟨(n, rule), (h.mem_iff _).2 hr, rfl⟩

/-- One more rule takes the nodes of its context that no rule before it has. -/
theorem Claimed.concat {fired : List (Node × Rule)} {nodes : List Node}
    (ho : XPath.OrderedBindings vars) (h : Claimed d ns vars rules fired)
    (hs : last.context.select ⟨d, ns, vars, XPath.rootNode⟩ XPath.rootNode = .ok nodes) :
    Claimed d ns vars (rules ++ [last]) (claim fired last nodes) := by
  have hnodes : nodes.Nodup := (Query.select_ordered ho hs).nodup
  have htaken : ∀ n, fired.any (·.1 = n) ↔ ∃ rule ∈ rules, Selects d ns vars rule n := by
    intro n
    rw [← h.mem_iff_selects, List.any_eq_true, List.mem_map]
    exact exists_congr fun f => and_congr_right fun _ => decide_eq_true_iff
  -- all contexts can be evaluated, no node is claimed twice, and who claims a node handles it
  refine ⟨?_, ?_, ?_⟩
  · intro rule hr
    rcases List.mem_append.1 hr with hr | hr
    · exact h.contexts rule hr
    · cases List.mem_singleton.1 hr
      exact ⟨nodes, hs⟩
  · rw [claim, List.map_append, List.map_map, List.nodup_append]
    refine ⟨h.nodup, ?_, ?_⟩
    · have : (Prod.fst ∘ fun n : Node => (n, last)) = id := rfl
      rw [this, List.map_id]
      exact hnodes.filter _
    · rintro a ha b hb rfl
      obtain ⟨f, hf, rfl⟩ := List.mem_map.1 ha
      obtain ⟨n, hn, hfn⟩ := List.mem_map.1 hb
      have hn' := (List.mem_filter.1 hn).2
      have hany : fired.any (·.1 = n) := List.any_eq_true.2 ⟨f, hf, by simpa using hfn.symm⟩
      simp [hany] at hn'
  · rintro ⟨n, rule⟩
    rw [claim, List.mem_append, fires_concat, h.mem_iff, List.mem_map]
    refine or_congr Iff.rfl ?_
    constructor
    · rintro ⟨m, hm, heq⟩
      cases heq
      obtain ⟨hmem, hfree⟩ := List.mem_filter.1 hm
      refine ⟨rfl, (selects_iff hs).2 hmem, fun other ho hso => ?_⟩
      rw [(htaken n).2 ⟨other, ho, hso⟩] at hfree
      cases hfree
    · rintro ⟨rfl, hsel, hnone⟩
      refine ⟨n, List.mem_filter.2 ⟨(selects_iff hs).1 hsel, ?_⟩, rfl⟩
      rw [Bool.not_eq_true', Bool.eq_false_iff]
      intro hany
      obtain ⟨other, ho, hso⟩ := (htaken n).1 hany
      exact hnone other ho hso

/-- The rules of a pattern handle nodes as they are to, as far as their contexts can be evaluated. -/
theorem claimed_spec (ho : XPath.OrderedBindings vars) (rules : List Rule) :
    (∀ fired, (rules.foldlM (fun fired rule => do
        return claim fired rule (← rule.context.select ⟨d, ns, vars, XPath.rootNode⟩ XPath.rootNode))
        []) = (Except.ok fired : Except Failure _) → Claimed d ns vars rules fired) ∧
    ((∀ rule ∈ rules, ∃ selected,
        rule.context.select ⟨d, ns, vars, XPath.rootNode⟩ XPath.rootNode = .ok selected) →
      ∃ fired, (rules.foldlM (fun fired rule => do
        return claim fired rule (← rule.context.select ⟨d, ns, vars, XPath.rootNode⟩ XPath.rootNode))
        []) = (Except.ok fired : Except Failure _)) := by
  -- a rule sees what those before it have claimed
  induction rules using List.reverseRecOn with
  | nil =>
    refine ⟨?_, fun _ => ⟨[], rfl⟩⟩
    intro fired h
    cases h
    exact ⟨by simp, by simp, by simp [Fires]⟩
  | append_singleton rules last ih =>
    simp only [List.foldlM_append, List.foldlM_cons, List.foldlM_nil]
    constructor
    · intro fired h
      obtain ⟨before, hb, h⟩ := bind_eq_ok.1 h
      obtain ⟨after, ha, h⟩ := bind_eq_ok.1 h
      cases h
      obtain ⟨nodes, hs, h⟩ := bind_eq_ok.1 ha
      cases h
      exact (ih.1 before hb).concat ho hs
    · intro hall
      obtain ⟨before, hb⟩ := ih.2 fun rule hr => hall rule (List.mem_append_left _ hr)
      obtain ⟨nodes, hs⟩ := hall last (List.mem_append_right _ List.mem_cons_self)
      refine ⟨claim before last nodes, bind_eq_ok.2 ⟨before, hb, ?_⟩⟩
      exact bind_eq_ok.2 ⟨_, bind_eq_ok.2 ⟨nodes, hs, rfl⟩, rfl⟩

/-- **The nodes that rules handle** come in document order, each once and with its rule. -/
theorem Pattern.fired_spec {p : Pattern} (ho : XPath.OrderedBindings vars) {fired : List (Node × Rule)}
    (h : p.fired ⟨d, ns, vars, XPath.rootNode⟩ = .ok fired) :
    Claimed d ns vars p.rules fired ∧ (fired.map (·.1)).Pairwise Node.Before := by
  obtain ⟨claimed, hc, h⟩ := bind_eq_ok.1 h
  cases h
  have hclaimed := (claimed_spec ho p.rules).1 claimed hc
  have hperm := List.mergeSort_perm claimed fun a b => a.1.le b.1
  have hnodup : ((claimed.mergeSort fun a b => a.1.le b.1).map (·.1)).Nodup :=
    (hperm.map (·.1)).nodup_iff.2 hclaimed.nodup
  refine ⟨⟨hclaimed.contexts, hnodup, fun f => ?_⟩, ?_⟩
  · rw [hperm.mem_iff]
    exact hclaimed.mem_iff f
  · have hsorted := @List.pairwise_mergeSort (Node × Rule) (fun a b => a.1.le b.1)
      (fun _ _ _ h => Node.le_trans h) (fun a b => Node.le_total a.1 b.1) claimed
    have hle : ((claimed.mergeSort fun a b => a.1.le b.1).map (·.1)).Pairwise
        fun a b : Node => a.le b := List.pairwise_map.2 hsorted
    exact (hle.and hnodup).imp fun h => Node.before_of_le_of_ne h.1 h.2

/-- **Nodes in document order that are those of the contexts** are the nodes handled, each with the rule
that handles it. -/
theorem Pattern.exists_fired {p : Pattern} {nodes : List Node} (ho : XPath.OrderedBindings vars)
    (hcontexts : ∀ rule ∈ p.rules, ∃ selected,
      rule.context.select ⟨d, ns, vars, XPath.rootNode⟩ XPath.rootNode = .ok selected)
    (hordered : nodes.Pairwise Node.Before)
    (hnodes : ∀ n, n ∈ nodes ↔ ∃ rule ∈ p.rules, Selects d ns vars rule n) :
    ∃ fired, p.fired ⟨d, ns, vars, XPath.rootNode⟩ = .ok fired ∧ nodes = fired.map (·.1) ∧
      ∀ f ∈ fired, Fires d ns vars p.rules f.1 f.2 := by
  obtain ⟨claimed, hc⟩ := (claimed_spec ho p.rules).2 hcontexts
  have hfired : p.fired ⟨d, ns, vars, XPath.rootNode⟩ =
      .ok (claimed.mergeSort fun a b => a.1.le b.1) := bind_eq_ok.2 ⟨claimed, hc, rfl⟩
  obtain ⟨hclaimed, hsorted⟩ := Pattern.fired_spec ho hfired
  refine ⟨_, hfired, ?_, fun f hf => (hclaimed.mem_iff f).1 hf⟩
  -- the same nodes, and the order leaves no choice
  have hperm : nodes.Perm ((claimed.mergeSort fun a b => a.1.le b.1).map (·.1)) := by
    rw [List.perm_ext_iff_of_nodup (XPath.Ordered.nodup hordered) hclaimed.nodup]
    intro n
    rw [hnodes, hclaimed.mem_iff_selects]
  refine hperm.eq_of_pairwise ?_ hordered hsorted
  intro a b _ _ hab hba
  exact absurd rfl (hab.trans hba).ne

/-! ## What is found -/

theorem Check.run_eq_ok {c : Context} {check : Check} {outcome : Option Finding} :
    check.run r c n = .ok outcome ↔ CheckFinds r c n check outcome := by
  rw [Check.run, bind_eq_ok]
  constructor
  · rintro ⟨holds, ht, h⟩
    -- an assertion finds something if its test fails, a report if it holds
    cases hk : check.kind <;> cases holds <;>
      simp only [hk, CheckKind.outcome?] at h
    · obtain ⟨text, hm, h⟩ := bind_eq_ok.1 h
      obtain ⟨wordings, hw, h⟩ := bind_eq_ok.1 h
      cases h
      exact .failed hk ht hm hw
    · cases h
      exact .passed hk ht
    · cases h
      exact .silent hk ht
    · obtain ⟨text, hm, h⟩ := bind_eq_ok.1 h
      obtain ⟨wordings, hw, h⟩ := bind_eq_ok.1 h
      cases h
      exact .reported hk ht hm hw
  · intro h
    cases h with
    | passed hk ht | silent hk ht => exact ⟨_, ht, by rw [hk]; rfl⟩
    | failed hk ht hm hw | reported hk ht hm hw =>
      refine ⟨_, ht, ?_⟩
      simp only [hk, CheckKind.outcome?]
      exact bind_eq_ok.2 ⟨_, hm, bind_eq_ok.2 ⟨_, hw, rfl⟩⟩

theorem Rule.run_eq_ok {group : List Finding} :
    rule.run d ns r vars n = .ok group ↔ RuleFinds d ns r vars n rule group := by
  rw [Rule.run, bind_eq_ok]
  constructor
  · rintro ⟨vars', hb, h⟩
    obtain ⟨outcomes, ho, h⟩ := bind_eq_ok.1 h
    cases h
    exact .mk (bind_eq_ok_iff.1 hb) ((mapM_eq_ok.1 ho).imp fun _ _ => Check.run_eq_ok.1)
  · rintro ⟨hlets, hchecks⟩
    refine ⟨_, bind_eq_ok_iff.2 hlets, bind_eq_ok.2 ⟨_, mapM_eq_ok.2 ?_, rfl⟩⟩
    exact hchecks.imp fun _ _ => Check.run_eq_ok.2

/-- What is found at nodes, each of which is paired with the rule that handles it. -/
theorem runs_eq_ok {fired : List (Node × Rule)} {groups : List (List Finding)}
    (h : ∀ f ∈ fired, Fires d ns vars rules f.1 f.2) :
    fired.mapM (fun f => f.2.run d ns r vars f.1) = .ok groups ↔
      List.Forall₂ (fun n group => ∃ rule, Fires d ns vars rules n rule ∧
        RuleFinds d ns r vars n rule group) (fired.map (·.1)) groups := by
  rw [mapM_eq_ok, List.forall₂_map_left_iff]
  constructor
  · intro hruns
    have hall := (List.forall₂_and_left fired groups).2 ⟨h, hruns⟩
    exact hall.imp fun f g hf => ⟨f.2, hf.1, Rule.run_eq_ok.1 hf.2⟩
  · intro hruns
    have hall := (List.forall₂_and_left fired groups).2 ⟨h, hruns⟩
    refine hall.imp ?_
    rintro f g ⟨hf, rule, hr, hg⟩
    rw [hf.unique hr]
    exact Rule.run_eq_ok.2 hg

theorem Pattern.run_eq_ok {p : Pattern} {group : List Finding} (ho : XPath.OrderedBindings outer) :
    p.run d ns r outer = .ok group ↔ PatternFinds d ns r outer p group := by
  rw [Pattern.run, bind_eq_ok]
  constructor
  · rintro ⟨vars, hb, h⟩
    obtain ⟨fired, hf, h⟩ := bind_eq_ok.1 h
    obtain ⟨groups, hg, h⟩ := bind_eq_ok.1 h
    cases h
    have hlets := bind_eq_ok_iff.1 hb
    obtain ⟨hclaimed, hsorted⟩ := Pattern.fired_spec (hlets.ordered ho) hf
    refine .mk hlets hclaimed.contexts hsorted ?_ ?_
    · intro n
      exact hclaimed.mem_iff_selects
    · exact (runs_eq_ok fun f hf => (hclaimed.mem_iff f).1 hf).1 hg
  · intro h
    cases h with
    | @mk vars nodes groups hlets hcontexts hordered hnodes hrules =>
      obtain ⟨fired, hfired, rfl, hfires⟩ :=
        Pattern.exists_fired (hlets.ordered ho) hcontexts hordered hnodes
      refine ⟨vars, bind_eq_ok_iff.2 hlets, bind_eq_ok.2 ⟨fired, hfired, ?_⟩⟩
      exact bind_eq_ok.2 ⟨groups, (runs_eq_ok hfires).2 hrules, rfl⟩

theorem RuleSet.findings_eq_ok {fs : List Finding} : r.findings d = .ok fs ↔ Finds d r fs := by
  rw [RuleSet.findings, bind_eq_ok]
  constructor
  · rintro ⟨vars, hb, h⟩
    obtain ⟨groups, hg, h⟩ := bind_eq_ok.1 h
    cases h
    have hlets := bind_eq_ok_iff.1 hb
    have hvars := hlets.ordered XPath.orderedBindings_nil
    exact .mk hlets ((mapM_eq_ok.1 hg).imp fun _ _ => (Pattern.run_eq_ok hvars).1)
  · rintro ⟨hlets, hpatterns⟩
    have hvars := hlets.ordered XPath.orderedBindings_nil
    refine ⟨_, bind_eq_ok_iff.2 hlets, bind_eq_ok.2 ⟨_, mapM_eq_ok.2 ?_, rfl⟩⟩
    exact hpatterns.imp fun _ _ => (Pattern.run_eq_ok hvars).2

/-- What patterns find in turn. -/
theorem RuleSet.findings_append (ps qs : List Pattern) :
    { r with patterns := ps ++ qs }.findings d = (do
      let before ← { r with patterns := ps }.findings d
      let after ← { r with patterns := qs }.findings d
      return before ++ after) := by
  have hrun : ∀ patterns, { r with patterns := patterns }.findings d =
      bind d (.ofList r.namespaces) XPath.rootNode [] r.lets >>= fun vars =>
        patterns.mapM (·.run d (.ofList r.namespaces) r vars) >>= fun groups =>
          .ok groups.flatten := fun _ => rfl
  rw [hrun, hrun, hrun]
  cases bind d (.ofList r.namespaces) XPath.rootNode [] r.lets with
  | error fault => rfl
  | ok vars =>
    simp only [List.mapM_append, Bind.bind, Except.bind]
    generalize ps.mapM (·.run d (.ofList r.namespaces) r vars) = before
    generalize qs.mapM (·.run d (.ofList r.namespaces) r vars) = after
    cases before with
    | error fault => rfl
    | ok before =>
      cases after with
      | error fault => rfl
      | ok after => simp [pure, Except.pure]

/-- **Rules find what they mean.** Evaluation succeeds with the findings of the rule set and with no
others; of the variables in force, the last one of a name counts, and all others keep the values they
had outside; the findings of patterns are those of the first ones and then those of the rest. -/
theorem findings_spec (r : RuleSet) (d : Document) :
    (∀ fs, r.findings d = .ok fs ↔ Finds d r fs) ∧
    (∀ ns n outer lets vars, Binds d ns n outer lets vars →
      (∀ x, x ∉ lets.map (·.name) → vars.lookup x = outer.lookup x) ∧
      ∀ before b after, lets = before ++ b :: after → b.name ∉ after.map (·.name) →
        ∃ seen v, Binds d ns n outer before seen ∧
          b.value.evaluate ⟨d, ns, seen, n⟩ n = .ok v ∧ vars.lookup b.name = some v) ∧
    ∀ ps qs, { r with patterns := ps ++ qs }.findings d = (do
      let before ← { r with patterns := ps }.findings d
      let after ← { r with patterns := qs }.findings d
      return before ++ after) := by
  refine ⟨fun _ => RuleSet.findings_eq_ok, ?_, RuleSet.findings_append⟩
  intro ns n outer lets vars h
  refine ⟨fun x => h.lookup_of_notMem, ?_⟩
  rintro before b after rfl
  exact h.lookup

end XmlAudit.Schematron
