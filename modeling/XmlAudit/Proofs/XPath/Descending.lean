import XmlAudit.Proofs.XPath.Faults
import XmlAudit.Proofs.XPath.Finding

/-!
# Two slashes

A step behind two slashes looks for children at every depth, and so finds what a step along the
descendant axis does.

* `candidates_eq_error`: what a node test fails of does not depend on the nodes.
* `walk_congr`: steps that look at the same nodes with the same test lead on to the same result.
* `exists_child_iff`: the descendants of a node are the children of itself and of its descendants.
* `walk_behind_slashes`: the two ways down are one.
-/

namespace XmlAudit.XPath

open Relation (TransGen ReflTransGen)
open Xml (Document)

variable {c : Context} {axis axis' : Axis} {test : NodeTest} {n m : Node} {ns ks : List Node}

/-! ## Steps without predicates -/

theorem step_from_plain : (Step.mk axis test []).from c n = candidates c axis test n := by
  have hnone : keepAll c [] = .ok := by
    funext ns
    rw [keepAll]
  rw [Step.from, hnone]
  cases candidates c axis test n <;> rfl

/-- Whether a node test can be decided for all nodes that steps from `ns` look at. -/
def Decided (c : Context) (axis : Axis) (test : NodeTest) (ns : List Node) : Prop :=
  ∀ n ∈ ns, ∀ m ∈ n.along c.document axis,
    ∃ b, m.satisfies c.document c.namespaces axis test = .ok b

/-- **A step from several nodes succeeds** if its node test can be decided for all nodes that it looks
at, and leads to those that satisfy it. -/
theorem candidates_of_decided (h : Decided c axis test ns) :
    ns.mapM (candidates c axis test) = .ok (ns.map (passing c axis test)) := by
  refine mapM_eq_ok.2 (List.forall₂_map_right_iff.2 (List.forall₂_same.2 ?_))
  intro n hn
  refine filterM_eq_ok fun m hm => ?_
  obtain ⟨b, hb⟩ := h n hn m hm
  rw [Node.passes, hb]
  rfl

/-- **A step fails** where its node test has a prefix that is not declared, whatever the nodes are. -/
theorem candidates_of_not_decided (h : ¬ Decided c axis test ns) :
    ∃ q, test.qualifier? = some q ∧
      ns.mapM (candidates c axis test) = .error (.undeclaredPrefix q) := by
  cases hns : ns.mapM (candidates c axis test) with
  | ok groups =>
    refine absurd (fun n hn => ?_) h
    obtain ⟨group, -, hgroup⟩ := exists_right_of_forall₂ (mapM_eq_ok.1 hns) hn
    exact ok_of_filterM hgroup
  | error fault =>
    obtain ⟨n, -, hn⟩ := mapM_eq_error hns
    obtain ⟨m, -, hm⟩ := filterM_eq_error hn
    obtain ⟨q, hq, rfl, -⟩ := satisfies_eq_error hm
    exact ⟨q, hq, rfl⟩

/-- Nodes in document order are told by what they are. -/
theorem Ordered.ext (hns : Ordered ns) (hks : Ordered ks) (h : ∀ m, m ∈ ns ↔ m ∈ ks) : ns = ks := by
  refine List.Perm.eq_of_pairwise ?_ hns hks ((List.perm_ext_iff_of_nodup hns.nodup hks.nodup).2 h)
  intro a b _ _ hab hba
  exact absurd rfl (hab.trans hba).ne

/-- **Steps that look at the same nodes with the same test** lead on to the same result. -/
theorem walk_congr (hlook : ∀ m, (∃ n ∈ ns, m ∈ n.along c.document axis) ↔
      ∃ k ∈ ks, m ∈ k.along c.document axis')
    (hsat : ∀ m : Node, m.satisfies c.document c.namespaces axis test =
      m.satisfies c.document c.namespaces axis' test) (rest : List Step) :
    walk c (.mk axis test [] :: rest) ns = walk c (.mk axis' test [] :: rest) ks := by
  have hdecided : Decided c axis test ns ↔ Decided c axis' test ks := by
    have hall : ∀ {axis : Axis} {ns : List Node}, Decided c axis test ns ↔
        ∀ m, (∃ n ∈ ns, m ∈ n.along c.document axis) →
          ∃ b, m.satisfies c.document c.namespaces axis test = .ok b := by
      intro axis ns
      constructor
      · rintro h m ⟨n, hn, hm⟩
        exact h n hn m hm
      · intro h n hn m hm
        exact h m ⟨n, hn, hm⟩
    rw [hall, hall]
    simp only [hlook, hsat]
  simp only [walk, step_from_plain]
  -- where the test can be decided, both find the same nodes; where not, both fail for its prefix
  by_cases h : Decided c axis test ns
  · have hsame : inOrder (ns.map (passing c axis test)).flatten =
        inOrder (ks.map (passing c axis' test)).flatten := by
      refine (inOrder_ordered _).ext (inOrder_ordered _) fun m => ?_
      have hmem : ∀ {axis : Axis} {ns : List Node}, m ∈ inOrder (ns.map (passing c axis test)).flatten ↔
          (∃ n ∈ ns, m ∈ n.along c.document axis) ∧ m.passes c axis test := by
        intro axis ns
        rw [mem_inOrder, ← List.flatMap_def, List.mem_flatMap]
        simp only [passing, List.mem_filter]
        tauto
      rw [hmem, hmem, hlook, Node.passes, Node.passes, hsat]
    rw [candidates_of_decided h, candidates_of_decided (hdecided.1 h)]
    exact congrArg (walk c rest) hsame
  · obtain ⟨q, hq, hfails⟩ := candidates_of_not_decided h
    obtain ⟨q', hq', hfails'⟩ := candidates_of_not_decided (mt hdecided.2 h)
    obtain rfl : q = q' := Option.some.inj (hq.symm.trans hq')
    rw [hfails, hfails']

/-! ## Down to every depth -/

/-- Off the attribute axis, a node test asks the same of a node along every axis. -/
theorem satisfies_off_attributes {d : Document} {names : Xml.Namespaces} (h : axis ≠ .attributes)
    (h' : axis' ≠ .attributes) (m : Node) :
    m.satisfies d names axis test = m.satisfies d names axis' test := by
  cases m <;> simp only [Node.satisfies, h, h', if_false]

/-- The step between two slashes can be taken from everywhere, and leads to the nodes themselves and
their descendants. -/
theorem decided_node (axis : Axis) (ns : List Node) : Decided c axis .node ns := by
  intro n _ m _
  cases m with
  | tree id => exact ⟨true, rfl⟩
  | attr owner index =>
    rw [Node.satisfies]
    split
    · exact ⟨false, rfl⟩
    · exact ⟨true, rfl⟩

theorem passes_node (hm : m.IsIn c.document) : m.passes c axis .node = true := by
  cases m with
  | tree id => rfl
  | attr owner index =>
    obtain ⟨a, ha⟩ := Option.isSome_iff_exists.1 hm
    rw [Node.passes, Node.satisfies, ha]
    rfl

/-- **The descendants of a node are the children** of itself and of its descendants. -/
theorem exists_child_iff (hd : c.document.Sound) (hn : n.IsIn c.document) :
    (∃ k ∈ passing c .descendantOrSelf .node n, m ∈ k.along c.document .child) ↔
      m ∈ n.along c.document .descendant := by
  have hinside : ∀ k ∈ n.along c.document .descendantOrSelf, k.IsIn c.document :=
    Node.along_inside hd hn _
  have hpassing : passing c .descendantOrSelf .node n = n.along c.document .descendantOrSelf :=
    List.filter_eq_self.2 fun k hk => passes_node (hinside k hk)
  rw [hpassing, Node.mem_along hd hn, Axis.Relates, TransGen.tail'_iff]
  refine exists_congr fun k => ?_
  constructor
  · rintro ⟨hk, hm⟩
    exact ⟨(Node.mem_along hd hn _).1 hk, (Node.mem_along hd (hinside k hk) .child).1 hm⟩
  · rintro ⟨hk, hm⟩
    have hk := (Node.mem_along hd hn .descendantOrSelf).2 hk
    exact ⟨hk, (Node.mem_along hd (hinside k hk) .child).2 hm⟩

/-- **Two slashes before a step to children** lead, from any nodes of a document, where a step to
descendants does: whatever steps follow, the nodes reached are the same, and if one way fails then the
other fails of the same. -/
theorem walk_behind_slashes {bytes : List UInt8} (h : Document.parse bytes = .ok c.document)
    (hns : ∀ n ∈ ns, n.IsIn c.document) (test : NodeTest) (rest : List Step) :
    walk c (.anyDepth :: .mk .child test [] :: rest) ns =
      walk c (.mk .descendant test [] :: rest) ns := by
  have hd := Document.parse_sound h
  have hreached : walk c (.anyDepth :: .mk .child test [] :: rest) ns =
      walk c (.mk .child test [] :: rest)
        (inOrder (ns.map (passing c .descendantOrSelf .node)).flatten) := by
    rw [Step.anyDepth, walk]
    simp only [step_from_plain]
    rw [candidates_of_decided (decided_node _ _)]
    rfl
  rw [hreached]
  refine walk_congr (fun m => ?_) (satisfies_off_attributes (by decide) (by decide)) rest
  simp only [mem_inOrder, ← List.flatMap_def, List.mem_flatMap]
  constructor
  · rintro ⟨k, ⟨n, hn, hk⟩, hm⟩
    exact ⟨n, hn, (exists_child_iff hd (hns n hn)).1 ⟨k, hk, hm⟩⟩
  · rintro ⟨n, hn, hm⟩
    obtain ⟨k, hk, hm⟩ := (exists_child_iff hd (hns n hn)).2 hm
    exact ⟨k, ⟨n, hn, hk⟩, hm⟩

/-- In the document `<a><b x='1'><c/></b><c/></a>`, both ways lead from the root to the elements `c`, which
are children of different elements, and from an attribute nowhere. -/
theorem walk_behind_slashes_nested : ∃ c : Context,
    Document.parse "<a><b x='1'><c/></b><c/></a>".toUTF8.toList = .ok c.document ∧
      (∀ n ∈ [rootNode, .attr 2 0], n.IsIn c.document) ∧
      walk c [.anyDepth, .mk .child (.named (.name none "c")) []] [rootNode, .attr 2 0] =
        .ok [.tree 3, .tree 4] ∧
      walk c [.mk .descendant (.named (.name none "c")) []] [rootNode, .attr 2 0] =
        .ok [.tree 3, .tree 4] := by
  let d : Document := .ofTree (.element 1 ⟨⟨none, "a"⟩, none, [], []⟩
    [.element 1 ⟨⟨none, "b"⟩, none, [⟨⟨none, "x"⟩, none, "1"⟩], []⟩
      [.element 1 ⟨⟨none, "c"⟩, none, [], []⟩ []], .element 1 ⟨⟨none, "c"⟩, none, [], []⟩ []])
  let c : Context := ⟨d, .empty, [], rootNode⟩
  have hd : Document.parse "<a><b x='1'><c/></b><c/></a>".toUTF8.toList = .ok d :=
    Document.parse_eq_ok_of_nodes (by decide +kernel)
  have hns : ∀ n ∈ [rootNode, .attr 2 0], n.IsIn d := by
    have hroot : rootNode.IsIn d := (by decide : 0 < 5)
    have hattr : (Node.attr 2 0).IsIn d := (by decide : ((Node.attr 2 0).attribute? d).isSome = true)
    simp [hroot, hattr]
  have hreached : [rootNode, .attr 2 0].mapM
      ((Step.mk .descendant (.named (.name none "c")) []).from c) = .ok [[.tree 3, .tree 4], []] := by
    decide +kernel
  have hordered : Ordered [.tree 3, .tree 4] := by
    simp [Ordered, Node.tree_before_tree]
  have hwalk : walk c [.mk .descendant (.named (.name none "c")) []] [rootNode, .attr 2 0] =
      .ok [.tree 3, .tree 4] := by
    rw [walk, hreached]
    show walk c [] (inOrder [.tree 3, .tree 4]) = _
    rw [walk, inOrder_eq_self hordered]
  have hsame := walk_behind_slashes (c := c) hd hns (.named (.name none "c")) []
  exact ⟨c, hd, hns, hsame.trans hwalk, hwalk⟩

end XmlAudit.XPath
