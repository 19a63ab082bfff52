import XmlAudit.Proofs.Outcome
import XmlAudit.Proofs.Schematron.Firing

/-!
# Where rules stop

Rules that cannot be evaluated to the end stop at one point, and may have found something before it.

* `BindStops`, `CheckStops`, `RuleStops`, `PatternStops`, `Stops`: the point at which variables, checks,
  rules, patterns and rule sets stop, and what they have found by then.
* `exists_stops_iff`: rules fail exactly where they stop, whatever they have found.
-/

namespace XmlAudit.Schematron

open Xml (Document Namespaces)
open XPath (Node Value Context Failure)

section

variable (d : Document) (ns : Namespaces)

/-- **A variable has no value at a node**, where those before it have theirs. -/
inductive BindStops (n : Node) (outer : List (String × Value)) (lets : List Binding) (f : Failure) :
    Prop
  | mk {before b after vars} (hlets : lets = before ++ b :: after)
    (hbefore : Binds d ns n outer before vars) (h : b.value.evaluate ⟨d, ns, vars, n⟩ n = .error f)

/-- The context of a rule cannot be evaluated, where those before it can. -/
inductive ContextStops (vars : List (String × Value)) (rules : List Rule) (f : Failure) : Prop
  | mk {before rule after} (hrules : rules = before ++ rule :: after)
    (hbefore : ∀ rule ∈ before, ∃ selected,
      rule.context.select ⟨d, ns, vars, XPath.rootNode⟩ XPath.rootNode = .ok selected)
    (h : rule.context.select ⟨d, ns, vars, XPath.rootNode⟩ XPath.rootNode = .error f)

end

/-- **A check stops** where `c` is seen: its test cannot be evaluated, or it finds fault and a piece of
its message or of one of its wordings cannot be. -/
inductive CheckStops (r : RuleSet) (c : Context) (n : Node) (check : Check) (f : Failure) : Prop
  | test (h : check.test.evaluateBoolean c n = .error f)
  | message {holds kind} (ht : check.test.evaluateBoolean c n = .ok holds)
    (hk : check.kind.outcome? holds = some kind) (h : renderMessage c n check.message = .error f)
  | wordings {holds kind text} (ht : check.test.evaluateBoolean c n = .ok holds)
    (hk : check.kind.outcome? holds = some kind) (hm : renderMessage c n check.message = .ok text)
    (h : wordingsAt r c n check = .error f)

section

variable (d : Document) (ns : Namespaces) (r : RuleSet)

/-- **A rule stops at a node**, with what its checks have found by then. -/
inductive RuleStops (vars : List (String × Value)) (n : Node) (rule : Rule) :
    List Finding → Failure → Prop
  | lets {f} (h : BindStops d ns n vars rule.lets f) : RuleStops vars n rule [] f
  | check {vars' before check after outcomes f} (hlets : Binds d ns n vars rule.lets vars')
    (hchecks : rule.checks = before ++ check :: after)
    (hbefore : List.Forall₂ (CheckFinds r ⟨d, ns, vars', n⟩ n) before outcomes)
    (h : CheckStops r ⟨d, ns, vars', n⟩ n check f) :
    RuleStops vars n rule (outcomes.flatMap Option.toList) f

/-- **A pattern stops**: one of its variables or contexts does, with nothing found, or the rule that
handles a node does, with what was found at the nodes before it and what the rule has found by then. -/
inductive PatternStops (outer : List (String × Value)) (p : Pattern) : List Finding → Failure → Prop
  | lets {f} (h : BindStops d ns XPath.rootNode outer p.lets f) : PatternStops outer p [] f
  | context {vars f} (hlets : Binds d ns XPath.rootNode outer p.lets vars)
    (h : ContextStops d ns vars p.rules f) : PatternStops outer p [] f
  | rule {vars before n after groups rule partly f}
    (hlets : Binds d ns XPath.rootNode outer p.lets vars)
    (hcontexts : ∀ rule ∈ p.rules, ∃ selected,
      rule.context.select ⟨d, ns, vars, XPath.rootNode⟩ XPath.rootNode = .ok selected)
    (hordered : (before ++ n :: after).Pairwise Node.Before)
    (hnodes : ∀ m, m ∈ before ++ n :: after ↔ ∃ rule ∈ p.rules, Selects d ns vars rule m)
    (hbefore : List.Forall₂ (fun n group => ∃ rule, Fires d ns vars p.rules n rule ∧
      RuleFinds d ns r vars n rule group) before groups)
    (hfires : Fires d ns vars p.rules n rule) (h : RuleStops d ns r vars n rule partly f) :
    PatternStops outer p (groups.flatten ++ partly) f

/-- **A rule set stops**: one of its variables does, with nothing found, or one of its patterns does,
with what the patterns before it find and what it has found by then. -/
inductive Stops : List Finding → Failure → Prop
  | lets {f} (h : BindStops d (.ofList r.namespaces) XPath.rootNode [] r.lets f) : Stops [] f
  | pattern {vars before p after groups partly f}
    (hlets : Binds d (.ofList r.namespaces) XPath.rootNode [] r.lets vars)
    (hpatterns : r.patterns = before ++ p :: after)
    (hbefore : List.Forall₂ (PatternFinds d (.ofList r.namespaces) r vars) before groups)
    (h : PatternStops d (.ofList r.namespaces) r vars p partly f) :
    Stops (groups.flatten ++ partly) f

end

variable {d : Document} {ns : Namespaces} {r : RuleSet} {vars outer : List (String × Value)}
  {rule : Rule} {n : Node} {f : Failure}

/-! ## Variables and contexts -/

theorem bind_eq_error_iff {lets : List Binding} :
    bind d ns n outer lets = .error f ↔ BindStops d ns n outer lets f := by
  rw [bind, foldlM_eq_error_iff]
  constructor
  · rintro ⟨before, b, after, vars, hlets, hbefore, h⟩
    refine .mk hlets (bind_eq_ok_iff.1 hbefore) ?_
    rcases bind_eq_error.1 h with h | ⟨v, -, h⟩
    · exact h
    · cases h
  · rintro ⟨hlets, hbefore, h⟩
    exact ⟨_, _, _, _, hlets, bind_eq_ok_iff.2 hbefore, bind_eq_error.2 (.inl h)⟩

/-- The nodes that rules handle cannot be told exactly if some context stops. -/
theorem Pattern.fired_eq_error_iff {p : Pattern} (ho : XPath.OrderedBindings vars) :
    p.fired ⟨d, ns, vars, XPath.rootNode⟩ = .error f ↔ ContextStops d ns vars p.rules f := by
  rw [Pattern.fired, bind_eq_error, Pattern.claimed, foldlM_eq_error_iff]
  constructor
  · rintro (⟨before, rule, after, fired, hrules, hbefore, h⟩ | ⟨fired, -, h⟩)
    · refine .mk hrules ((claimed_spec ho before).1 fired hbefore).contexts ?_
      rcases bind_eq_error.1 h with h | ⟨nodes, -, h⟩
      · exact h
      · cases h
    · cases h
  · rintro ⟨hrules, hbefore, h⟩
    obtain ⟨fired, hfired⟩ := (claimed_spec ho _).2 hbefore
    exact .inl ⟨_, _, _, fired, hrules, hfired, bind_eq_error.2 (.inl h)⟩

/-! ## Checks, rules and patterns -/

theorem Check.run_eq_error_iff {c : Context} {check : Check} :
    check.run r c n = .error f ↔ CheckStops r c n check f := by
  rw [Check.run, bind_eq_error]
  constructor
  · rintro (h | ⟨holds, ht, h⟩)
    · exact .test h
    · cases hk : check.kind.outcome? holds with
      | none =>
        rw [hk] at h
        cases h
      | some kind =>
        rw [hk] at h
        rcases bind_eq_error.1 h with h | ⟨text, hm, h⟩
        · exact .message ht hk h
        · rcases bind_eq_error.1 h with h | ⟨wordings, -, h⟩
          · exact .wordings ht hk hm h
          · cases h
  · intro h
    cases h with
    | test h => exact .inl h
    | message ht hk h =>
      refine .inr ⟨_, ht, ?_⟩
      rw [hk]
      exact bind_eq_error.2 (.inl h)
    | wordings ht hk hm h =>
      refine .inr ⟨_, ht, ?_⟩
      rw [hk]
      exact bind_eq_error.2 (.inr ⟨_, hm, bind_eq_error.2 (.inl h)⟩)

theorem Rule.run_eq_error_iff :
    rule.run d ns r vars n = .error f ↔ ∃ partly, RuleStops d ns r vars n rule partly f := by
  rw [Rule.run, bind_eq_error, bind_eq_error_iff]
  constructor
  · rintro (h | ⟨vars', hb, h⟩)
    · exact ⟨_, .lets h⟩
    · rcases bind_eq_error.1 h with h | ⟨outcomes, -, h⟩
      · obtain ⟨before, check, after, hchecks, hbefore, h⟩ := mapM_eq_error_iff.1 h
        obtain ⟨outcomes, ho⟩ := exists_mapM_iff.2 hbefore
        exact ⟨_, .check (bind_eq_ok_iff.1 hb) hchecks
          ((mapM_eq_ok.1 ho).imp fun _ _ => Check.run_eq_ok.1) (Check.run_eq_error_iff.1 h)⟩
      · cases h
  · rintro ⟨partly, h⟩
    cases h with
    | lets h => exact .inl h
    | check hlets hchecks hbefore h =>
      refine .inr ⟨_, bind_eq_ok_iff.2 hlets, bind_eq_error.2 (.inl ?_)⟩
      have hruns := mapM_eq_ok.2 (hbefore.imp fun _ _ => Check.run_eq_ok.2)
      exact mapM_eq_error_iff.2 ⟨_, _, _, hchecks, exists_mapM_iff.1 ⟨_, hruns⟩,
        Check.run_eq_error_iff.2 h⟩


theorem Pattern.run_eq_error_iff {p : Pattern} (ho : XPath.OrderedBindings outer) :
    p.run d ns r outer = .error f ↔ ∃ partly, PatternStops d ns r outer p partly f := by
  rw [Pattern.run, bind_eq_error, bind_eq_error_iff]
  constructor
  · rintro (h | ⟨vars, hb, h⟩)
    · exact ⟨_, .lets h⟩
    have hlets := bind_eq_ok_iff.1 hb
    have hvars := hlets.ordered ho
    rcases bind_eq_error.1 h with h | ⟨fired, hf, h⟩
    · exact ⟨_, .context hlets ((Pattern.fired_eq_error_iff hvars).1 h)⟩
    rcases bind_eq_error.1 h with h | ⟨groups, -, h⟩
    swap
    · cases h
    -- the rule that stops is the one that handles its node
    obtain ⟨before, ⟨n, rule⟩, after, rfl, hbefore, h⟩ := mapM_eq_error_iff.1 h
    obtain ⟨groups, hg⟩ := exists_mapM_iff.2 hbefore
    obtain ⟨partly, hstops⟩ := Rule.run_eq_error_iff.1 h
    obtain ⟨hclaimed, hsorted⟩ := Pattern.fired_spec hvars hf
    have hfires := fun x hx => (hclaimed.mem_iff x).1 hx
    rw [List.map_append, List.map_cons] at hsorted
    refine ⟨_, .rule hlets hclaimed.contexts hsorted ?_
      ((runs_eq_ok fun x hx => hfires x (List.mem_append_left _ hx)).1 hg)
      (hfires _ (List.mem_append_right _ List.mem_cons_self)) hstops⟩
    intro m
    rw [← hclaimed.mem_iff_selects, List.map_append, List.map_cons]
  · rintro ⟨partly, h⟩
    cases h with
    | lets h => exact .inl h
    | context hlets h =>
      have hfired := (Pattern.fired_eq_error_iff (hlets.ordered ho)).2 h
      exact .inr ⟨_, bind_eq_ok_iff.2 hlets, bind_eq_error.2 (.inl hfired)⟩
    | rule hlets hcontexts hordered hnodes hbefore hfires h =>
      obtain ⟨fired, hfired, hsame, hmem⟩ :=
        Pattern.exists_fired (hlets.ordered ho) hcontexts hordered hnodes
      obtain ⟨first, rest, rfl, rfl, hrest⟩ := List.append_eq_map_iff.1 hsame
      obtain ⟨⟨n, rule'⟩, last, rfl, rfl, rfl⟩ := List.map_eq_cons_iff.1 hrest
      obtain rfl := hfires.unique (hmem _ (List.mem_append_right _ List.mem_cons_self))
      have hruns := (runs_eq_ok fun x hx => hmem x (List.mem_append_left _ hx)).2 hbefore
      refine .inr ⟨_, bind_eq_ok_iff.2 hlets, bind_eq_error.2 (.inr ⟨_, hfired, ?_⟩)⟩
      exact bind_eq_error.2 (.inl (mapM_eq_error_iff.2 ⟨_, _, _, rfl, exists_mapM_iff.1 ⟨_, hruns⟩,
        Rule.run_eq_error_iff.2 ⟨_, h⟩⟩))

/-- Rules stop with all that the patterns find before the one that stops. -/
theorem exists_stops_behind {before after : List Pattern} {p : Pattern}
    {groups : List (List Finding)}
    (hb : bind d (.ofList r.namespaces) XPath.rootNode [] r.lets = .ok vars)
    (hpatterns : r.patterns = before ++ p :: after)
    (hbefore : before.mapM (·.run d (.ofList r.namespaces) r vars) = .ok groups)
    (hp : p.run d (.ofList r.namespaces) r vars = .error f) :
    ∃ partly, Stops d r (groups.flatten ++ partly) f := by
  have hlets := bind_eq_ok_iff.1 hb
  have hvars := hlets.ordered XPath.orderedBindings_nil
  obtain ⟨partly, hstops⟩ := (Pattern.run_eq_error_iff hvars).1 hp
  exact ⟨partly, .pattern hlets hpatterns
    ((mapM_eq_ok.1 hbefore).imp fun _ _ => (Pattern.run_eq_ok hvars).1) hstops⟩

/-- **Rules fail exactly where they stop**, whatever they have found by then. -/
theorem exists_stops_iff : (∃ partly, Stops d r partly f) ↔ r.findings d = .error f := by
  rw [RuleSet.findings, bind_eq_error, bind_eq_error_iff]
  constructor
  · rintro ⟨partly, h⟩
    cases h with
    | lets h => exact .inl h
    | pattern hlets hpatterns hbefore h =>
      have hvars := hlets.ordered XPath.orderedBindings_nil
      refine .inr ⟨_, bind_eq_ok_iff.2 hlets, bind_eq_error.2 (.inl ?_)⟩
      have hruns := mapM_eq_ok.2 (hbefore.imp fun _ _ => (Pattern.run_eq_ok hvars).2)
      exact mapM_eq_error_iff.2 ⟨_, _, _, hpatterns, exists_mapM_iff.1 ⟨_, hruns⟩,
        (Pattern.run_eq_error_iff hvars).2 ⟨_, h⟩⟩
  · rintro (h | ⟨vars, hb, h⟩)
    · exact ⟨_, .lets h⟩
    rcases bind_eq_error.1 h with h | ⟨groups, -, h⟩
    · obtain ⟨before, p, after, hpatterns, hbefore, hp⟩ := mapM_eq_error_iff.1 h
      obtain ⟨groups, hg⟩ := exists_mapM_iff.2 hbefore
      obtain ⟨partly, hstops⟩ := exists_stops_behind hb hpatterns hg hp
      exact ⟨_, hstops⟩
    · cases h

end XmlAudit.Schematron
