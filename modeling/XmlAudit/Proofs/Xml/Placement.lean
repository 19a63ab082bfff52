import Mathlib
import XmlAudit.Xml.Document

/-!
# Trees in the numbering of a document

A tree whose root has number `s` fills the numbers from `s` on and below `s + t.size`.

* `Document.Holds`: a tree fills the numbers from `s` on, as a child of `p`.
* `holds_ofTree`: the document of a tree holds that tree from number 1 on.
* `Holds.tree_at`: every number that a tree fills is that of a tree inside it.
-/

namespace XmlAudit.Xml

namespace Document

variable {d : Document} {id : Nat}

theorem element?_eq_some_iff {e : Element} :
    d.element? id = some e ↔ ∃ n, d.node? id = some n ∧ n.kind = .element e := by
  unfold element?
  split
  · next hn => simp [hn]
  · next hn =>
    refine ⟨by simp, ?_⟩
    rintro ⟨⟨kind, parent, children, line, last⟩, hm, rfl⟩
    exact absurd hm (hn e parent children line last)

theorem text?_eq_some_iff {s : String} :
    d.text? id = some s ↔ ∃ n, d.node? id = some n ∧ n.kind = .text s := by
  unfold text?
  split
  · next hn => simp [hn]
  · next hn =>
    refine ⟨by simp, ?_⟩
    rintro ⟨⟨kind, parent, children, line, last⟩, hm, rfl⟩
    exact absurd hm (hn s parent children line last)

theorem lt_size_iff : id < d.size ↔ ∃ n, d.node? id = some n := by
  simp only [size, node?]
  exact ⟨fun h => ⟨_, Array.getElem?_eq_getElem h⟩,
    fun ⟨_, h⟩ => (Array.getElem?_eq_some_iff.1 h).1⟩

theorem lt_size_of_element? {e : Element} (h : d.element? id = some e) : id < d.size := by
  obtain ⟨n, hn, -⟩ := element?_eq_some_iff.1 h
  exact lt_size_iff.2 ⟨n, hn⟩

/-- An element is no text. -/
theorem text?_eq_none {e : Element} (h : d.element? id = some e) : d.text? id = none := by
  obtain ⟨n, hn, hk⟩ := element?_eq_some_iff.1 h
  cases ht : d.text? id with
  | none => rfl
  | some s =>
    obtain ⟨m, hm, hk'⟩ := text?_eq_some_iff.1 ht
    rw [hn, Option.some.injEq] at hm
    rw [← hm, hk] at hk'
    exact NodeKind.noConfusion hk'

theorem children_eq_nil (h : d.size ≤ id) : d.children id = [] := by
  have : d.node? id = none := by simp only [node?, Array.getElem?_eq_none_iff]; exact h
  simp [children, this]

theorem lt_size_of_child {c : Nat} (h : c ∈ d.children id) : id < d.size := by
  rcases Nat.lt_or_ge id d.size with hid | hid
  · exact hid
  · rw [children_eq_nil hid] at h
    exact absurd h List.not_mem_nil

end Document

/-! ## Trees in their places -/

mutual

/-- The nodes of a tree fill the numbers from `s` on, as those of a child of `p`. -/
def Document.Holds (d : Document) (p s : NodeId) : Tree → Prop
  | .text line content => d.node? s = some ⟨.text content, some p, [], line, s⟩
  | .element line e children =>
    d.node? s = some ⟨.element e, some p, siblingIds (s + 1) children, line, s + sizes children⟩ ∧
      d.HoldsAll s (s + 1) children

/-- The nodes of sibling trees fill the numbers from `s` on, as those of children of `p`. -/
def Document.HoldsAll (d : Document) (p s : NodeId) : List Tree → Prop
  | [] => True
  | t :: ts => d.Holds p s t ∧ d.HoldsAll p (s + t.size) ts

end

/-- A tree that is no text. -/
def Tree.IsElement : Tree → Prop
  | .text _ _ => False
  | .element _ _ _ => True

theorem Tree.size_pos (t : Tree) : 0 < t.size := by
  cases t with
  | text => simp [Tree.size]
  | element => simp only [Tree.size]; omega

mutual

theorem Tree.length_nodes (p s : NodeId) : ∀ t : Tree, (t.nodes p s).length = t.size
  | .text _ _ => rfl
  | .element _ _ children => by
    simp only [Tree.nodes, Tree.size, List.length_cons, length_forestNodes s (s + 1) children]
    omega

theorem length_forestNodes (p s : NodeId) : ∀ ts : List Tree, (forestNodes p s ts).length = sizes ts
  | [] => rfl
  | t :: ts => by
    simp only [forestNodes, sizes, List.length_append, t.length_nodes p s,
      length_forestNodes p (s + t.size) ts]

end

mutual

/-- A tree is held where its nodes stand in the list of all nodes. -/
theorem holds_of_append (before after : List Node) (p : NodeId) : ∀ t : Tree,
    (Document.mk (before ++ t.nodes p before.length ++ after).toArray).Holds p before.length t
  | .text line content => by simp [Document.Holds, Document.node?, Tree.nodes]
  | .element line e children => by
    have ih := holdsAll_of_append (before ++ [⟨.element e, some p,
      siblingIds (before.length + 1) children, line, before.length + sizes children⟩]) after
      before.length children
    rw [List.length_append, List.length_singleton] at ih
    refine ⟨by simp [Document.node?, Tree.nodes], ?_⟩
    simpa [Tree.nodes] using ih

theorem holdsAll_of_append (before after : List Node) (p : NodeId) : ∀ ts : List Tree,
    (Document.mk (before ++ forestNodes p before.length ts ++ after).toArray).HoldsAll p
      before.length ts
  | [] => trivial
  | t :: ts => by
    have h1 := holds_of_append before (forestNodes p (before.length + t.size) ts ++ after) p t
    have h2 := holdsAll_of_append (before ++ t.nodes p before.length) after p ts
    rw [List.length_append, t.length_nodes] at h2
    simp only [forestNodes, List.append_assoc] at h1 h2 ⊢
    exact ⟨h1, h2⟩

end

/-- **The document of a tree holds that tree** from the number of the document element on. -/
theorem holds_ofTree (t : Tree) : (Document.ofTree t).Holds Document.root Document.documentElement t := by
  have h := holds_of_append [⟨.document, none, [Document.documentElement], 0, t.size⟩] [] Document.root t
  simpa [Document.ofTree, Document.documentElement] using h

@[simp] theorem Document.size_ofTree (t : Tree) : (Document.ofTree t).size = t.size + 1 := by
  simp [Document.ofTree, Document.size, t.length_nodes]

theorem Document.node?_root_ofTree (t : Tree) :
    (Document.ofTree t).node? Document.root =
      some ⟨.document, none, [Document.documentElement], 0, t.size⟩ := by
  simp [Document.ofTree, Document.node?, Document.root]

variable {d : Document} {p s : Nat}

/-- The node with which a held tree starts. -/
theorem Document.Holds.node {t : Tree} (h : d.Holds p s t) :
    ∃ n, d.node? s = some n ∧ n.kind ≠ .document ∧ n.parent = some p ∧ n.last + 1 = s + t.size := by
  cases t with
  | text line content => exact ⟨_, h, by simp, rfl, rfl⟩
  | element line e children =>
    refine ⟨_, h.1, by simp, rfl, ?_⟩
    simp only [Tree.size]; lia

/-- The children of the node with which a held element starts. -/
theorem Document.Holds.children_eq {line : Nat} {e : Element} {children : List Tree}
    (h : d.Holds p s (.element line e children)) : d.children s = siblingIds (s + 1) children := by
  simp [Document.children, h.1]

mutual

/-- **Every number that a held tree fills is that of a tree inside it**, which is the tree itself or
a child of a node that the tree fills too. -/
theorem Document.Holds.tree_at : ∀ {t : Tree} {p s i : Nat}, d.Holds p s t → s ≤ i → i < s + t.size →
    ∃ (q : Nat) (u : Tree), d.Holds q i u ∧
      (i = s ∧ q = p ∧ u = t ∨ s ≤ q ∧ q < i ∧ i ∈ d.children q)
  | .text _ _, p, s, i, h, hs, hi => by
    have : i = s := by simp only [Tree.size] at hi; omega
    subst this
    exact ⟨p, _, h, .inl ⟨rfl, rfl, rfl⟩⟩
  | .element line e children, p, s, i, h, hs, hi => by
    rcases Nat.eq_or_lt_of_le hs with rfl | hlt
    · exact ⟨p, _, h, .inl ⟨rfl, rfl, rfl⟩⟩
    -- among the children: a child itself, or below one of them
    · obtain ⟨q, u, hu, ⟨rfl, hq⟩ | ⟨hq, hqi, hc⟩⟩ :=
        Document.HoldsAll.tree_at h.2 hlt (by simp only [Tree.size] at hi; omega)
      · exact ⟨q, u, hu, .inr ⟨Nat.le_refl q, hlt, by rw [h.children_eq]; exact hq⟩⟩
      · exact ⟨q, u, hu, .inr ⟨by omega, hqi, hc⟩⟩

theorem Document.HoldsAll.tree_at : ∀ {ts : List Tree} {p s i : Nat}, d.HoldsAll p s ts → s ≤ i →
    i < s + sizes ts → ∃ (q : Nat) (u : Tree), d.Holds q i u ∧
      (q = p ∧ i ∈ siblingIds s ts ∨ s ≤ q ∧ q < i ∧ i ∈ d.children q)
  | [], p, s, i, _, hs, hi => by simp only [sizes] at hi; omega
  | t :: ts, p, s, i, h, hs, hi => by
    simp only [sizes] at hi
    rcases Nat.lt_or_ge i (s + t.size) with hlt | hge
    · obtain ⟨q, u, hu, ⟨rfl, rfl, rfl⟩ | hq⟩ := Document.Holds.tree_at h.1 hs hlt
      · exact ⟨q, u, hu, .inl ⟨rfl, List.mem_cons_self⟩⟩
      · exact ⟨q, u, hu, .inr hq⟩
    · obtain ⟨q, u, hu, ⟨rfl, hq⟩ | ⟨hq, hqi, hc⟩⟩ := Document.HoldsAll.tree_at h.2 hge (by omega)
      · exact ⟨q, u, hu, .inl ⟨rfl, List.mem_cons_of_mem _ hq⟩⟩
      · exact ⟨q, u, hu, .inr ⟨by omega, hqi, hc⟩⟩

end

end XmlAudit.Xml
