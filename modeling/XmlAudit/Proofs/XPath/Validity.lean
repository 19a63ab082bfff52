import XmlAudit.Proofs.XPath.NodeSets
import XmlAudit.Proofs.Xml.Numbering

/-!
# Sets of nodes

* `NodeSet`: nodes of a document in document order, each once.
* `Node.along_inside`: every axis stays in the document.
* `Context.Valid`: what an expression sees belongs to the document.
* `Expr.eval_valid`: whatever nodes an expression gives are a set of nodes of the document.
* `NodeSet.exists_first`: of a set that is not empty, one node is the first.
-/

namespace XmlAudit.Xml.Document

/-! ## Neighbours -/

section

variable {d : Document} {id m : Nat}

theorem Sound.child_lt_size (h : d.Sound) (hm : m ∈ d.children id) : m < d.size := by
  obtain ⟨-, hle, hlast⟩ := h.child_bounds hm
  have hlt := h.last_lt (lt_size_of_child hm)
  lia

theorem Sound.descendant_lt_size (h : d.Sound) (hid : id < d.size) (hm : m ∈ d.descendants id) :
    m < d.size := by
  have hle := (Sound.mem_descendants.1 hm).2
  have hlt := h.last_lt hid
  lia

theorem Sound.ancestor_lt_size (h : d.Sound) {fuel : Nat} (hm : m ∈ d.ancestorsWithin fuel id) :
    m < d.size := by
  induction fuel generalizing id with
  | zero => cases hm
  | succ fuel ih =>
    rw [ancestorsWithin] at hm
    split at hm
    · next p hp =>
      rcases List.mem_cons.1 hm with rfl | hm
      · exact lt_size_of_child (h.child_iff.2 hp)
      · exact ih hm
    · cases hm

theorem following_lt_size (hm : m ∈ d.following id) : m < d.size := by
  simp only [following, idsBetween, List.mem_range'_1] at hm
  lia

theorem preceding_lt_size (hid : id < d.size) (hm : m ∈ d.preceding id) : m < d.size := by
  have hmem := (List.mem_filter.1 hm).1
  simp only [idsBetween, List.mem_range'_1] at hmem
  lia

end

end XmlAudit.Xml.Document

namespace XmlAudit.XPath

open Xml (Document)
open Xml.Document

/-- **A set of nodes of a document**: in document order, each once, and all of them in the
document. -/
structure NodeSet (d : Document) (ns : List Node) : Prop where
  ordered : Ordered ns
  inside : ∀ n ∈ ns, n.IsIn d

/-- The nodes of a value are a set of nodes of a document. -/
def Value.Valid (d : Document) : Value → Prop
  | nodes ns => NodeSet d ns
  | _ => True

/-- The nodes bound to variables are sets of nodes of a document. -/
def ValidBindings (d : Document) (bindings : List (String × Value)) : Prop :=
  ∀ b ∈ bindings, b.2.Valid d

/-- **What an expression sees belongs to the document**: the current node and the nodes that are
bound to variables. -/
structure Context.Valid (c : Context) : Prop where
  current : c.current.IsIn c.document
  bindings : ValidBindings c.document c.bindings

theorem ValidBindings.ordered {d : Document} {bindings : List (String × Value)}
    (h : ValidBindings d bindings) : OrderedBindings bindings := by
  rintro ⟨x, v⟩ hb
  have hv := h _ hb
  cases v with
  | nodes ns => exact hv.ordered
  | text | number | boolean => trivial

/-! ## Document order -/

/-- An element comes before its attributes, and these come in their order. -/
theorem Node.before_attr (owner index : Nat) :
    (tree owner).Before (attr owner index) ∧
      ∀ later, index < later → (attr owner index).Before (attr owner later) :=
  ⟨.inr ⟨rfl, Nat.succ_pos index⟩, fun _ h => .inr ⟨rfl, Nat.succ_lt_succ h⟩⟩

/-- The attributes of an element come before its children. -/
theorem Node.attr_before_child {d : Document} (h : d.Sound) {owner index child : Nat}
    (hc : child ∈ d.children owner) : (attr owner index).Before (tree child) :=
  .inl (h.child_bounds hc).1

/-! ## Axes -/

section

variable {d : Document} (h : d.Sound)

theorem rootNode_inside (h : d.Sound) : rootNode.IsIn d := by
  obtain ⟨n, hn, -⟩ := h.root
  exact lt_size_iff.2 ⟨n, hn⟩

theorem Node.owner_lt_size {owner index : Nat} (hn : (attr owner index).IsIn d) : owner < d.size := by
  obtain ⟨a, ha⟩ := Option.isSome_iff_exists.1 hn
  obtain ⟨e, he, -⟩ := Option.bind_eq_some_iff.1 ha
  exact lt_size_of_element? he

include h

/-- Every axis from a node of the tree stays in the document. -/
theorem Node.alongFromTree_inside {id : Nat} (hid : id < d.size) (axis : Axis) :
    ∀ m ∈ alongFromTree d id axis, m.IsIn d := by
  have hmap : ∀ {ids : List Nat}, (∀ m ∈ ids, m < d.size) → ∀ m ∈ ids.map tree, m.IsIn d := by
    intro ids hids m hm
    obtain ⟨i, hi, rfl⟩ := List.mem_map.1 hm
    exact hids i hi
  have hself : (tree id).IsIn d := hid
  cases axis with
  | child => exact hmap fun m hm => h.child_lt_size hm
  | descendant => exact hmap fun m hm => h.descendant_lt_size hid hm
  | descendantOrSelf =>
    exact List.forall_mem_cons.2 ⟨hself, hmap fun m hm => h.descendant_lt_size hid hm⟩
  | parent =>
    refine hmap fun m hm => ?_
    exact lt_size_of_child (h.child_iff.2 (Option.mem_toList.1 hm))
  | ancestor => exact hmap fun m hm => h.ancestor_lt_size hm
  | ancestorOrSelf =>
    exact List.forall_mem_cons.2 ⟨hself, hmap fun m hm => h.ancestor_lt_size hm⟩
  | followingSibling =>
    rw [alongFromTree]
    split
    · next p _ =>
      refine hmap fun m hm => @Sound.child_lt_size d p m h ?_
      exact (List.dropWhile_sublist _).subset ((List.drop_sublist _ _).subset hm)
    · exact fun m hm => by cases hm
  | precedingSibling =>
    rw [alongFromTree]
    split
    · next p _ =>
      split
      · refine hmap fun m hm => @Sound.child_lt_size d p m h ?_
        exact (List.takeWhile_sublist _).subset (List.mem_reverse.1 hm)
      · exact fun m hm => by cases hm
    · exact fun m hm => by cases hm
  | following => exact hmap fun m hm => following_lt_size hm
  | preceding => exact hmap fun m hm => preceding_lt_size hid (List.mem_reverse.1 hm)
  | attributes =>
    rw [alongFromTree]
    split
    · next e he =>
      intro m hm
      obtain ⟨i, hi, rfl⟩ := List.mem_map.1 hm
      have hlt : i < e.attributes.length := List.mem_range.1 hi
      simp [IsIn, attribute?, he, hlt]
    · exact fun m hm => by cases hm
  | self => exact List.forall_mem_singleton.2 hself

/-- Every axis from an attribute stays in the document. -/
theorem Node.alongFromAttribute_inside {owner index : Nat} (hn : (attr owner index).IsIn d)
    (axis : Axis) : ∀ m ∈ alongFromAttribute d owner index axis, m.IsIn d := by
  have howner := owner_lt_size hn
  have hancestor := alongFromTree_inside h howner .ancestorOrSelf
  have hself : ∀ m ∈ [attr owner index], m.IsIn d := List.forall_mem_singleton.2 hn
  cases axis with
  | self | descendantOrSelf => exact hself
  | parent => exact List.forall_mem_singleton.2 howner
  | ancestor => exact hancestor
  | ancestorOrSelf => exact List.forall_mem_cons.2 ⟨hn, hancestor⟩
  | following =>
    exact List.forall_mem_append.2
      ⟨alongFromTree_inside h howner .descendant, alongFromTree_inside h howner .following⟩
  | preceding => exact alongFromTree_inside h howner .preceding
  | _ => exact fun m hm => by cases hm

/-- **Every axis stays in the document.** -/
theorem Node.along_inside {n : Node} (hn : n.IsIn d) (axis : Axis) :
    ∀ m ∈ n.along d axis, m.IsIn d := by
  cases n with
  | tree id => exact alongFromTree_inside h hn axis
  | attr owner index => exact alongFromAttribute_inside h hn axis

end

/-! ## Steps and expressions -/

section

variable {c : Context} (hd : c.document.Sound)

include hd

theorem Step.from_inside {s : Step} {n : Node} {ns : List Node} (hn : n.IsIn c.document)
    (h : s.from c n = .ok ns) : ∀ m ∈ ns, m.IsIn c.document := by
  obtain ⟨axis, test, predicates⟩ := s
  rw [Step.from] at h
  obtain ⟨found, hfound, h⟩ := bind_eq_ok.1 h
  intro m hm
  have hmem := subset_of_filterM hfound ((keepAll_sublist h).subset hm)
  exact Node.along_inside hd hn axis m hmem

/-- Steps lead from nodes of the document to nodes of the document. -/
theorem walk_inside : ∀ {steps : List Step} {ns reached : List Node},
    (∀ n ∈ ns, n.IsIn c.document) → walk c steps ns = .ok reached →
      ∀ m ∈ reached, m.IsIn c.document
  | [], ns, reached, hns, h => by
    rw [walk] at h
    cases h
    exact hns
  | s :: rest, ns, reached, hns, h => by
    rw [walk] at h
    obtain ⟨groups, hgroups, h⟩ := bind_eq_ok.1 h
    refine walk_inside (fun m hm => ?_) h
    obtain ⟨group, hgroup, hm⟩ := List.mem_flatten.1 (mem_inOrder.1 hm)
    obtain ⟨n, hn, hfrom⟩ := exists_left_of_forall₂ (mapM_eq_ok.1 hgroups) hgroup
    exact s.from_inside hd (hns n hn) hfrom m hm

end

/-- All nodes of a value are in the document. -/
def Value.Inside (d : Document) (v : Value) : Prop := ∀ ns, v = .nodes ns → ∀ n ∈ ns, n.IsIn d

theorem occursPattern_inside {d : Document} {s pattern flags : String} {v : Value}
    (h : occursPattern s pattern flags = .ok v) : v.Inside d := by
  rintro ns rfl
  unfold occursPattern at h
  split at h
  · cases h
  · cases h

/-- The only function that gives nodes gives the current node. -/
theorem Function.apply_inside {c : Context} (hc : c.current.IsIn c.document) {focus : Focus}
    {f : Function} {args : List Value} {v : Value} (h : f.apply c focus args = .ok v) :
    v.Inside c.document := by
  unfold Function.apply at h
  split at h
  all_goals first
    | exact occursPattern_inside h
    | (cases h; done)
    | (cases h; rintro ns ⟨⟩; exact List.forall_mem_singleton.2 hc)
    | (cases h; rintro ns ⟨⟩)
    | (obtain ⟨ns, -, h⟩ := bind_eq_ok.1 h; cases h; rintro ns ⟨⟩)

/-- **Whatever nodes an expression gives are in the document**, if what it sees is. -/
theorem Expr.eval_inside {c : Context} (hd : c.document.Sound) (hc : c.Valid) :
    ∀ (e : Expr) {focus : Focus} {v : Value}, focus.node.IsIn c.document →
      e.eval c focus = .ok v → v.Inside c.document
  | .or left right, _, _, _, h => by
    rw [eval] at h
    obtain ⟨a, -, h⟩ := bind_eq_ok.1 h
    split at h
    · cases h
      rintro ns ⟨⟩
    · obtain ⟨b, -, h⟩ := bind_eq_ok.1 h
      cases h
      rintro ns ⟨⟩
  | .and left right, _, _, _, h => by
    rw [eval] at h
    obtain ⟨a, -, h⟩ := bind_eq_ok.1 h
    split at h
    · obtain ⟨b, -, h⟩ := bind_eq_ok.1 h
      cases h
      rintro ns ⟨⟩
    · cases h
      rintro ns ⟨⟩
  | .compare op left right, _, _, _, h | .arithmetic op left right, _, _, _, h => by
    rw [eval] at h
    obtain ⟨a, -, h⟩ := bind_eq_ok.1 h
    obtain ⟨b, -, h⟩ := bind_eq_ok.1 h
    cases h
    rintro ns ⟨⟩
  | .negate operand, _, _, _, h => by
    rw [eval] at h
    obtain ⟨a, -, h⟩ := bind_eq_ok.1 h
    cases h
    rintro ns ⟨⟩
  | .union left right, _, _, hfocus, h => by
    rw [eval] at h
    obtain ⟨a, ha, h⟩ := bind_eq_ok.1 h
    obtain ⟨as, has, h⟩ := bind_eq_ok.1 h
    obtain ⟨b, hb, h⟩ := bind_eq_ok.1 h
    obtain ⟨bs, hbs, h⟩ := bind_eq_ok.1 h
    cases h
    rintro ns ⟨⟩ n hn
    rcases List.mem_append.1 (mem_inOrder.1 hn) with hn | hn
    · exact left.eval_inside hd hc hfocus ha as (toNodes_eq_ok.1 has) n hn
    · exact right.eval_inside hd hc hfocus hb bs (toNodes_eq_ok.1 hbs) n hn
  | .path absolute steps, _, _, hfocus, h => by
    rw [eval] at h
    obtain ⟨reached, hreached, h⟩ := bind_eq_ok.1 h
    cases h
    rintro ns ⟨⟩
    refine walk_inside hd (List.forall_mem_singleton.2 ?_) hreached
    split
    · exact rootNode_inside hd
    · exact hfocus
  | .filter primary predicates steps, _, _, hfocus, h => by
    rw [eval] at h
    obtain ⟨p, hp, h⟩ := bind_eq_ok.1 h
    obtain ⟨found, hfound, h⟩ := bind_eq_ok.1 h
    obtain ⟨kept, hkept, h⟩ := bind_eq_ok.1 h
    obtain ⟨reached, hreached, h⟩ := bind_eq_ok.1 h
    cases h
    rintro ns ⟨⟩
    have hinside := primary.eval_inside hd hc hfocus hp found (toNodes_eq_ok.1 hfound)
    exact walk_inside hd (fun n hn => hinside n ((keepAll_sublist hkept).subset hn)) hreached
  | .literal s, _, _, _, h | .number x, _, _, _, h => by
    rw [eval] at h
    cases h
    rintro ns ⟨⟩
  | .variable name, _, _, _, h => by
    rw [eval] at h
    split at h
    · next v' hv =>
      cases h
      rintro ns rfl
      have hvalid : (Value.nodes ns).Valid c.document := hc.bindings _ (mem_of_lookup hv)
      exact hvalid.inside
    · cases h
  | .call f arguments, _, _, _, h => by
    rw [eval] at h
    obtain ⟨args, -, h⟩ := bind_eq_ok.1 h
    exact Function.apply_inside hc.current h

/-- **Whatever nodes an expression gives are a set of nodes of the document**, if what it sees
belongs to the document. -/
theorem Expr.eval_valid {c : Context} (hd : c.document.Sound) (hc : c.Valid) {e : Expr}
    {focus : Focus} {v : Value} (hfocus : focus.node.IsIn c.document)
    (h : e.eval c focus = .ok v) : v.Valid c.document := by
  have hordered := e.eval_ordered hc.bindings.ordered h
  have hinside := e.eval_inside hd hc hfocus h
  cases v with
  | nodes ns => exact ⟨hordered, hinside ns rfl⟩
  | text | number | boolean => trivial

/-! ## The first node -/

/-- A node of a list before which, in document order, there is no other. -/
def IsFirst (ns : List Node) (n : Node) : Prop := n ∈ ns ∧ ∀ m ∈ ns, m = n ∨ n.Before m

/-- The first node of a set in document order is that at the head of the list. -/
theorem NodeSet.head_eq {d : Document} {ns : List Node} {n : Node} (h : NodeSet d ns)
    (hn : IsFirst ns n) : ∃ later, ns = n :: later := by
  obtain ⟨hmem, hfirst⟩ := hn
  cases ns with
  | nil => cases hmem
  | cons m later =>
    rcases hfirst m List.mem_cons_self with rfl | hbefore
    · exact ⟨later, rfl⟩
    · -- the head comes before all other nodes, and so does `n`
      rcases List.mem_cons.1 hmem with rfl | hmem
      · exact ⟨later, rfl⟩
      · have hlater := (List.pairwise_cons.1 h.ordered).1 n hmem
        exact absurd rfl (hlater.trans hbefore).ne

theorem NodeSet.exists_first {d : Document} {ns : List Node} (h : NodeSet d ns) (hne : ns ≠ []) :
    ∃ n, IsFirst ns n := by
  obtain ⟨n, later, rfl⟩ := List.exists_cons_of_ne_nil hne
  refine ⟨n, List.mem_cons_self, List.forall_mem_cons.2 ⟨.inl rfl, fun m hm => .inr ?_⟩⟩
  exact (List.pairwise_cons.1 h.ordered).1 m hm

/-- **The text and the name of a set of nodes** are those of its first node in document order. -/
theorem Expr.eval_first {c : Context} {e : Expr} {focus : Focus} {ns : List Node} {n : Node}
    (hns : NodeSet c.document ns) (h : e.eval c focus = .ok (.nodes ns)) (hn : IsFirst ns n) :
    (Expr.call .string [e]).eval c focus = .ok (.text (n.stringValue c.document)) ∧
      (Expr.call .name [e]).eval c focus =
        .ok (.text (((n.name? c.document).map (·.render)).getD "")) := by
  obtain ⟨later, rfl⟩ := hns.head_eq hn
  have hcollect : ∀ f : Function, f.collect (evalEach c [e] focus) = .ok [.nodes (n :: later)] := by
    intro f
    rw [evalEach, evalEach, h, Function.collect]
    split <;> rfl
  constructor
  · rw [eval, hcollect]
    rfl
  · rw [eval, hcollect]
    rfl

end XmlAudit.XPath
