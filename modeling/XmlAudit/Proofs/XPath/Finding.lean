import XmlAudit.Proofs.XPath.Navigation
import XmlAudit.Proofs.XPath.Walking

/-!
# What paths of names and positions find

* `found`: what is found, which is nothing where an expression cannot be evaluated.
* `passing`: the nodes along an axis that satisfy a node test.
* `landing`: the node to which child steps lead.
* `found_path`: a path finds what its ending finds at that node.
-/

namespace XmlAudit.XPath

open Xml (Document Namespaces)

/-- What is found, which is nothing where something fails. -/
def found {ε α : Type} (x : Except ε (List α)) : List α := x.toOption.getD []

variable {c : Context} {axis : Axis} {test : NodeTest} {n : Node}

/-! ## Tests -/

/-- Whether a node satisfies a node test; none does if a prefix in it is not declared. -/
def Node.passes (c : Context) (axis : Axis) (test : NodeTest) (n : Node) : Bool :=
  (n.satisfies c.document c.namespaces axis test).toOption.getD false

/-- The nodes along an axis that satisfy a node test. -/
def passing (c : Context) (axis : Axis) (test : NodeTest) (n : Node) : List Node :=
  (n.along c.document axis).filter (Node.passes c axis test)

/-- A prefix that is not declared makes a name test fail whatever the name is. -/
theorem NameTest.accepts_eq_error {ns : Namespaces} {t : NameTest} {l : String} {u : Option String}
    {fault : EvalFault} (h : t.accepts ns l u = .error fault) (l' : String) (u' : Option String) :
    t.accepts ns l' u' = .error fault := by
  cases t with
  | any => cases h
  | anywhere => cases h
  | anyIn q => exact map_eq_error.2 (map_eq_error.1 h)
  | name q l =>
    cases q with
    | none => cases h
    | some q => exact map_eq_error.2 (map_eq_error.1 h)

/-- A node test fails because of a name test. -/
theorem exists_of_satisfies_eq_error {fault : EvalFault}
    (h : n.satisfies c.document c.namespaces axis test = .error fault) :
    ∃ t l u, test = .named t ∧ t.accepts c.namespaces l u = .error fault := by
  -- only tests for names look up prefixes, and only for nodes that have names
  cases n with
  | attr owner i =>
    rw [Node.satisfies] at h
    split at h
    · cases h
    · next a _ =>
      cases test with
      | node => cases h
      | text => cases h
      | named t =>
        simp only at h
        split at h
        · exact ⟨t, _, _, rfl, h⟩
        · cases h
  | tree id =>
    cases test with
    | node => cases h
    | text => cases h
    | named t =>
      rw [Node.satisfies] at h
      split at h
      · split at h
        · cases h
        · exact ⟨t, _, _, rfl, h⟩
      · cases h

/-- Where a node test fails for one node, no node satisfies it. -/
theorem passes_eq_false_of_error {fault : EvalFault}
    (h : n.satisfies c.document c.namespaces axis test = .error fault) (m : Node) :
    m.passes c axis test = false := by
  obtain ⟨t, l, u, rfl, ht⟩ := exists_of_satisfies_eq_error h
  have hfails : ∀ l u, (t.accepts c.namespaces l u).toOption.getD false = false := fun l u => by
    rw [NameTest.accepts_eq_error ht l u]
    rfl
  rw [Node.passes]
  cases m with
  | attr owner i =>
    rw [Node.satisfies]
    split
    · rfl
    · simp only
      split
      · exact hfails _ _
      · rfl
  | tree id =>
    rw [Node.satisfies]
    split
    · split
      · rfl
      · exact hfails _ _
    · rfl

/-- **The nodes that are found along an axis** are those that satisfy the node test. -/
theorem found_candidates : found (candidates c axis test n) = passing c axis test n := by
  cases h : candidates c axis test n with
  | ok ns =>
    have hok : ∀ m ∈ n.along c.document axis,
        m.satisfies c.document c.namespaces axis test = .ok (m.passes c axis test) := by
      intro m hm
      obtain ⟨b, hb⟩ := ok_of_filterM h m hm
      rw [Node.passes, hb]
      rfl
    have hkept := filterM_eq_ok hok
    rw [candidates, hkept] at h
    cases h
    rfl
  | error fault =>
    obtain ⟨m, -, hm⟩ := filterM_eq_error h
    have hnone : passing c axis test n = [] :=
      List.filter_eq_nil_iff.2 fun m' _ => Bool.eq_false_iff.1 (passes_eq_false_of_error hm m')
    rw [hnone]
    rfl

/-! ## Steps -/

/-- **A child step with a position finds the node at that position** among those that satisfy its
test. -/
theorem found_indexedStep {t : NameTest} {k : Nat}
    (hlen : (n.along c.document .child).length < 2 ^ 53) (hk : k + 1 < 2 ^ 53) :
    found ((indexedStep (t, k + 1)).from c n) = (passing c .child (.named t) n)[k]?.toList := by
  have hcandidates := @found_candidates c .child (.named t) n
  rw [indexedStep, Step.from]
  cases h : candidates c .child (.named t) n with
  | error fault =>
    rw [h] at hcandidates
    rw [← hcandidates]
    rfl
  | ok ns =>
    rw [h] at hcandidates
    have hns : ns = passing c .child (.named t) n := hcandidates
    have hshort : ns.length < 2 ^ 53 := by
      rw [hns]
      exact Nat.lt_of_le_of_lt (List.length_filter_le _ _) hlen
    have hkept := @keepAll_position c ns k hshort hk
    rw [← hns]
    exact congrArg found hkept

/-- A step without predicates finds the nodes that satisfy its test. -/
theorem found_plainStep : found ((Step.mk axis test []).from c n) = passing c axis test n := by
  rw [← found_candidates, Step.from]
  cases candidates c axis test n with
  | error fault => rfl
  | ok ns => exact congrArg found (show keepAll c [] ns = .ok ns by rw [keepAll])

/-! ## Walks -/

theorem found_walk_cons {s : Step} {steps : List Step} {m : Option Node}
    (h : found (s.from c n) = m.toList) :
    found (walk c (s :: steps) [n]) = found (walk c steps m.toList) := by
  cases hfrom : s.from c n with
  | ok ns =>
    rw [hfrom] at h
    have hns : ns = m.toList := h
    rw [hns] at hfrom
    rw [walk_cons hfrom]
  | error fault =>
    rw [hfrom] at h
    have hm : m.toList = [] := h.symm
    rw [hm, walk_nil, walk, List.mapM_cons, hfrom]
    rfl

/-- The last step of a walk. -/
theorem found_walk_singleton {s : Step} :
    found (walk c [s] [n]) = inOrder (found (s.from c n)) := by
  cases hfrom : s.from c n with
  | ok ns =>
    have hreached : [n].mapM (fun n => s.from c n) = .ok [ns] := mapM_eq_ok.2 (.cons hfrom .nil)
    have hflatten : [ns].flatten = ns := by simp
    rw [walk, hreached]
    show found (walk c [] (inOrder [ns].flatten)) = _
    rw [walk, hflatten]
    rfl
  | error fault =>
    rw [walk, List.mapM_cons, hfrom]
    exact inOrder_nil.symm

/-- **The node to which child steps lead**, if to any. Positions are counted from 0. -/
def landing (c : Context) (steps : List (NameTest × Nat)) (n : Node) : Option Node :=
  steps.foldlM (fun n s => (passing c .child (.named s.1) n)[s.2]?) n

/-- What an ending finds at a node. -/
def Ending.nodes (c : Context) (n : Node) : Ending → List Node
  | element => [n]
  | attr name => passing c .attributes (.named (testOf name)) n
  | text => passing c .child .text n

theorem found_landing (hlen : ∀ n : Node, (n.along c.document .child).length < 2 ^ 53)
    {steps : List (NameTest × Nat)} (hsteps : ∀ s ∈ steps, s.2 + 1 < 2 ^ 53) (later : List Step) :
    found (walk c ((steps.map fun s => indexedStep (s.1, s.2 + 1)) ++ later) [n]) =
      (landing c steps n).elim [] fun m => found (walk c later [m]) := by
  induction steps generalizing n with
  | nil => rfl
  | cons s steps ih =>
    obtain ⟨hs, hsteps⟩ := List.forall_mem_cons.1 hsteps
    have hfound := @found_indexedStep c n s.1 s.2 (hlen n) hs
    rw [List.map_cons, List.cons_append, found_walk_cons hfound, landing, List.foldlM_cons]
    cases (passing c .child (.named s.1) n)[s.2]? with
    | none =>
      rw [Option.toList_none, walk_nil]
      rfl
    | some m => exact ih hsteps

/-! ## Order -/

theorem dropRepeats_eq_self : ∀ {ns : List Node}, ns.Nodup → dropRepeats ns = ns
  | [], _ => rfl
  | [_], _ => rfl
  | a :: b :: rest, h => by
    obtain ⟨ha, hrest⟩ := List.nodup_cons.1 h
    have hab : a ≠ b := fun hab => ha (hab ▸ List.mem_cons_self)
    rw [dropRepeats, if_neg hab, dropRepeats_eq_self hrest]

theorem inOrder_eq_self {ns : List Node} (h : Ordered ns) : inOrder ns = ns := by
  have hsorted : ns.mergeSort Node.le = ns := by
    refine List.mergeSort_of_pairwise (h.imp fun {a b} hab => ?_)
    rw [Node.le_iff]
    exact hab.imp_right fun hab => ⟨hab.1, Nat.le_of_lt hab.2⟩
  rw [inOrder, hsorted, dropRepeats_eq_self h.nodup]

/-- Children and attributes are in document order. -/
theorem ordered_along (h : c.document.Sound) (haxis : axis = .child ∨ axis = .attributes) :
    Ordered (n.along c.document axis) := by
  cases n with
  | attr owner i => rcases haxis with rfl | rfl <;> exact List.Pairwise.nil
  | tree id =>
    rcases haxis with rfl | rfl
    · exact Node.alongFromTree_arranged h id .child
    · exact Node.alongFromTree_arranged h id .attributes

/-- **A path finds what its ending finds** at the node to which its steps lead. -/
theorem found_path (h : c.document.Sound)
    (hlen : ∀ n : Node, (n.along c.document .child).length < 2 ^ 53)
    {steps : List (NameTest × Nat)} (hsteps : ∀ s ∈ steps, s.2 + 1 < 2 ^ 53) (ending : Ending) :
    found (walk c ((steps.map fun s => indexedStep (s.1, s.2 + 1)) ++ ending.readSteps) [n]) =
      (landing c steps n).elim [] fun m => ending.nodes c m := by
  rw [found_landing hlen hsteps]
  congr 1
  funext m
  have hpassing : ∀ {axis : Axis} {test : NodeTest}, axis = .child ∨ axis = .attributes →
      found (walk c [.mk axis test []] [m]) = passing c axis test m := by
    intro axis test haxis
    rw [found_walk_singleton, found_plainStep]
    exact inOrder_eq_self ((ordered_along h haxis).sublist List.filter_sublist)
  cases ending with
  | element => rw [Ending.readSteps, walk]; rfl
  | attr name => exact hpassing (.inr rfl)
  | text => exact hpassing (.inl rfl)

end XmlAudit.XPath
