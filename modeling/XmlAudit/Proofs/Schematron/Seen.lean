import XmlAudit.Proofs.Schematron.Firing
import XmlAudit.Proofs.XPath.Validity

/-!
# What the expressions of rules see

* `Sees`: the nodes at which the expressions of a rule set are evaluated, and the variables that are
  bound there.
* `Sees.valid`: these nodes are in the document, and so are the nodes bound to variables.
* `node_sets_valid`: whatever nodes an expression gives are a set of nodes of the document.
-/

namespace XmlAudit.Schematron

open Xml (Document Namespaces)
open XPath (Node Value Context Query NodeSet ValidBindings IsFirst Expr Focus)

/-- **What the expressions of a rule set see**: a node and the variables bound so far. Those of the
rule set and of its patterns are evaluated at the root, those of a rule at each node that it
handles. -/
inductive Sees (d : Document) (r : RuleSet) : Node → List (String × Value) → Prop
  | schema {before vars} (hbefore : before <+: r.lets)
    (h : Binds d (.ofList r.namespaces) XPath.rootNode [] before vars) : Sees d r XPath.rootNode vars
  | pattern {p outer before vars} (hp : p ∈ r.patterns)
    (houter : Binds d (.ofList r.namespaces) XPath.rootNode [] r.lets outer)
    (hbefore : before <+: p.lets)
    (h : Binds d (.ofList r.namespaces) XPath.rootNode outer before vars) :
    Sees d r XPath.rootNode vars
  | rule {p outer shared rule n before vars} (hp : p ∈ r.patterns)
    (houter : Binds d (.ofList r.namespaces) XPath.rootNode [] r.lets outer)
    (hshared : Binds d (.ofList r.namespaces) XPath.rootNode outer p.lets shared)
    (hfires : Fires d (.ofList r.namespaces) shared p.rules n rule)
    (hbefore : before <+: rule.lets) (h : Binds d (.ofList r.namespaces) n shared before vars) :
    Sees d r n vars

section

variable {d : Document} {ns : Namespaces} {r : RuleSet} {n : Node}
  {vars outer : List (String × Value)}

/-- Variables bound at a node of the document have sets of nodes of it. -/
theorem Binds.valid {lets : List Binding} (hd : d.Sound) (hn : n.IsIn d)
    (h : Binds d ns n outer lets vars) (houter : ValidBindings d outer) : ValidBindings d vars := by
  induction h with
  | nil => exact houter
  | @cons outer _ b v _ hv _ ih =>
    refine ih (List.forall_mem_cons.2 ⟨?_, houter⟩)
    have hc : Context.Valid ⟨d, ns, outer, n⟩ := ⟨hn, houter⟩
    exact Expr.eval_valid hd hc hn (Query.evaluate_eq_ok.1 hv)

/-- The node that a rule handles is in the document. -/
theorem Fires.inside {rules : List Rule} {rule : Rule} (hd : d.Sound)
    (hvars : ValidBindings d vars) (h : Fires d ns vars rules n rule) : n.IsIn d := by
  obtain ⟨-, -, ⟨nodes, hselect, hn⟩, -⟩ := h
  have hroot := XPath.rootNode_inside hd
  have hc : Context.Valid ⟨d, ns, vars, XPath.rootNode⟩ := ⟨hroot, hvars⟩
  exact (Expr.eval_valid hd hc hroot (Query.select_eq_ok.1 hselect)).inside n hn

/-- **All that the expressions of a rule set see is in the document.** -/
theorem Sees.valid (hd : d.Sound) (h : Sees d r n vars) : n.IsIn d ∧ ValidBindings d vars := by
  have hroot := XPath.rootNode_inside hd
  have hnil : ValidBindings d [] := fun b hb => by cases hb
  cases h with
  | schema _ h => exact ⟨hroot, h.valid hd hroot hnil⟩
  | pattern _ houter _ h => exact ⟨hroot, h.valid hd hroot (houter.valid hd hroot hnil)⟩
  | rule _ houter hshared hfires _ h =>
    have hshared := hshared.valid hd hroot (houter.valid hd hroot hnil)
    have hn := hfires.inside hd hshared
    exact ⟨hn, h.valid hd hn hshared⟩

end

/-- **Every set of nodes is valid.** Where what an expression sees belongs to the document, the nodes
that it gives are in document order, each once, and in the document, and its text and its name are
those of the first of them. In document order, an element comes before its attributes and these
before its children. What the expressions of a rule set see belongs to the document. -/
theorem node_sets_valid {bytes : List UInt8} {d : Document} (h : Document.parse bytes = .ok d) :
    (∀ (c : Context) (e : Expr) (focus : Focus) (nodes : List Node), c.document = d → c.Valid →
      focus.node.IsIn d → e.eval c focus = .ok (.nodes nodes) →
      NodeSet d nodes ∧ (nodes ≠ [] → ∃ first, IsFirst nodes first) ∧
        ∀ first, IsFirst nodes first →
          (Expr.call .string [e]).eval c focus = .ok (.text (first.stringValue d)) ∧
          (Expr.call .name [e]).eval c focus =
            .ok (.text (((first.name? d).map (·.render)).getD ""))) ∧
    (∀ owner index, (Node.tree owner).Before (.attr owner index) ∧
      (∀ later, index < later → (Node.attr owner index).Before (.attr owner later)) ∧
      ∀ child ∈ d.children owner, (Node.attr owner index).Before (.tree child)) ∧
    ∀ r n vars, Sees d r n vars → n.IsIn d ∧ ValidBindings d vars := by
  have hd := Document.parse_sound h
  refine ⟨?_, fun owner index => ?_, fun r n vars hsees => hsees.valid hd⟩
  · rintro c e focus nodes rfl hc hfocus he
    have hnodes : NodeSet c.document nodes := Expr.eval_valid hd hc hfocus he
    exact ⟨hnodes, hnodes.exists_first, fun first hfirst => Expr.eval_first hnodes he hfirst⟩
  · obtain ⟨hattribute, hlater⟩ := Node.before_attr owner index
    exact ⟨hattribute, hlater, fun child hchild => Node.attr_before_child hd hchild⟩

/-- In the document `<a b='c'><d/></a>`, a union of paths gives the root, the attribute and the inner
element, in this order. -/
theorem node_sets_valid_union : ∃ (d : Document) (e : Expr),
    Document.parse "<a b='c'><d/></a>".toUTF8.toList = .ok d ∧
      e.eval ⟨d, .empty, [], XPath.rootNode⟩ (.on XPath.rootNode) =
        .ok (.nodes [.tree 0, .attr 1 0, .tree 2]) ∧
      NodeSet d [.tree 0, .attr 1 0, .tree 2] := by
  let a : Xml.Element := ⟨⟨none, "a"⟩, none, [⟨⟨none, "b"⟩, none, "c"⟩], []⟩
  let d : Document := .ofTree (.element 1 a [.element 1 ⟨⟨none, "d"⟩, none, [], []⟩ []])
  let e : Expr := .union (.union (.path true [.mk .descendant (.named (.name none "d")) []])
    (.path true [.mk .child (.named .any) [], .mk .attributes (.named .any) []])) (.path true [])
  have hd : Document.parse "<a b='c'><d/></a>".toUTF8.toList = .ok d :=
    Document.parse_eq_ok_of_nodes (by decide +kernel)
  have he : e.eval ⟨d, .empty, [], XPath.rootNode⟩ (.on XPath.rootNode) =
      .ok (.nodes [.tree 0, .attr 1 0, .tree 2]) := by cbv
  have hroot := XPath.rootNode_inside (Document.parse_sound hd)
  have hc : Context.Valid ⟨d, .empty, [], XPath.rootNode⟩ := ⟨hroot, fun b hb => by cases hb⟩
  exact ⟨d, e, hd, he, ((node_sets_valid hd).1 _ e _ _ rfl hc hroot he).1⟩

end XmlAudit.Schematron
