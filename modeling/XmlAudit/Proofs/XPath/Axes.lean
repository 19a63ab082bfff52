import XmlAudit.Proofs.XPath.Validity
import XmlAudit.Proofs.Xml.Kinship

/-!
# Axes

The relations that the axes stand for, told by parents, children and document order.

* `Node.HasChild`, `Node.IsParent`: children, and parents, which attributes have too.
* `Axis.Relates`: the relation that an axis stands for.
* `Node.mem_along`: along an axis lie the nodes that stand in its relation to a node, and no others.
-/

namespace XmlAudit.XPath

open Xml (Document NodeId)
open Xml.Document
open Relation (TransGen ReflTransGen)

/-! ## Relations -/

namespace Node

/-- The node `m` of the tree is a child of `n`. Attributes are nobody's children. -/
inductive HasChild (d : Document) : Node → Node → Prop
  | mk {p c : NodeId} (h : d.IsChild p c) : HasChild d (tree p) (tree c)

/-- The node `p` has `n` as a child, or is the element that has the attribute `n`. -/
inductive IsParent (d : Document) : Node → Node → Prop
  | ofChild {p c : NodeId} (h : d.IsChild p c) : IsParent d (tree p) (tree c)
  | ofAttribute {owner : NodeId} {index : Nat} (h : (attr owner index).IsIn d) :
    IsParent d (tree owner) (attr owner index)

/-- Whether a node is an attribute. -/
def IsAttribute : Node → Prop
  | tree _ => False
  | attr _ _ => True

end Node

/-- **The relation that an axis stands for**, of a node `n` to those along the axis from it. -/
def Axis.Relates (d : Document) (axis : Axis) (n m : Node) : Prop :=
  match axis with
  | child => Node.HasChild d n m
  | descendant => TransGen (Node.HasChild d) n m
  | descendantOrSelf => ReflTransGen (Node.HasChild d) n m
  | parent => Node.IsParent d m n
  | ancestor => TransGen (Node.IsParent d) m n
  | ancestorOrSelf => ReflTransGen (Node.IsParent d) m n
  | followingSibling => ∃ p, Node.HasChild d p n ∧ Node.HasChild d p m ∧ n.Before m
  | precedingSibling => ∃ p, Node.HasChild d p n ∧ Node.HasChild d p m ∧ m.Before n
  | following => m.IsIn d ∧ ¬ m.IsAttribute ∧ n.Before m ∧ ¬ TransGen (Node.HasChild d) n m
  | preceding => m.IsIn d ∧ ¬ m.IsAttribute ∧ m.Before n ∧ ¬ TransGen (Node.IsParent d) m n
  | attributes => m.IsAttribute ∧ Node.IsParent d n m
  | self => m = n

/-! ### The relations between nodes of the tree -/

section

variable {d : Document} {id owner index : Nat} {m : Node} {ids : List Nat}

theorem Node.mem_map_tree : m ∈ ids.map tree ↔ ∃ j, m = tree j ∧ j ∈ ids := by
  rw [List.mem_map]
  constructor
  · rintro ⟨j, hj, rfl⟩
    exact ⟨j, rfl, hj⟩
  · rintro ⟨j, rfl, hj⟩
    exact ⟨j, hj, rfl⟩

theorem Node.hasChild_tree : HasChild d (tree id) m ↔ ∃ j, m = tree j ∧ d.IsChild id j := by
  constructor
  · rintro ⟨hc⟩
    exact ⟨_, rfl, hc⟩
  · rintro ⟨j, rfl, hc⟩
    exact .mk hc

theorem Node.not_hasChild_attr : ¬ HasChild d (attr owner index) m := by
  rintro ⟨⟩

theorem Node.hasChild_of_child : HasChild d m (tree id) ↔ ∃ p, m = tree p ∧ d.IsChild p id := by
  constructor
  · rintro ⟨hc⟩
    exact ⟨_, rfl, hc⟩
  · rintro ⟨p, rfl, hc⟩
    exact .mk hc

theorem Node.isParent_tree : IsParent d m (tree id) ↔ ∃ p, m = tree p ∧ d.IsChild p id := by
  constructor
  · rintro ⟨hc⟩
    exact ⟨_, rfl, hc⟩
  · rintro ⟨p, rfl, hc⟩
    exact .ofChild hc

theorem Node.isParent_attr (hn : (attr owner index).IsIn d) :
    IsParent d m (attr owner index) ↔ m = tree owner := by
  constructor
  · rintro ⟨⟩
    rfl
  · rintro rfl
    exact .ofAttribute hn

/-- Descendants in the tree. -/
theorem Node.descends_tree :
    TransGen (HasChild d) (tree id) m ↔ ∃ j, m = tree j ∧ TransGen d.IsChild id j := by
  constructor
  · intro h
    induction h with
    | single hm =>
      obtain ⟨j, rfl, hc⟩ := hasChild_tree.1 hm
      exact ⟨j, rfl, .single hc⟩
    | tail _ hm ih =>
      obtain ⟨j, rfl, hj⟩ := ih
      obtain ⟨k, rfl, hc⟩ := hasChild_tree.1 hm
      exact ⟨k, rfl, hj.tail hc⟩
  · rintro ⟨j, rfl, hj⟩
    exact hj.lift tree fun p c hc => .mk hc

theorem Node.not_descends_attr : ¬ TransGen (HasChild d) (attr owner index) m := by
  intro h
  obtain ⟨n, hn, -⟩ := TransGen.head'_iff.1 h
  exact not_hasChild_attr hn

/-- Ancestors in the tree. -/
theorem Node.contains_tree :
    TransGen (IsParent d) m (tree id) ↔ ∃ j, m = tree j ∧ TransGen d.IsChild j id := by
  constructor
  · intro h
    induction h using TransGen.head_induction_on with
    | single hp =>
      obtain ⟨p, rfl, hc⟩ := isParent_tree.1 hp
      exact ⟨p, rfl, .single hc⟩
    | head hp _ ih =>
      obtain ⟨j, rfl, hj⟩ := ih
      obtain ⟨p, rfl, hc⟩ := isParent_tree.1 hp
      exact ⟨p, rfl, .head hc hj⟩
  · rintro ⟨j, rfl, hj⟩
    exact hj.lift tree fun p c hc => .ofChild hc

/-- The ancestors of an attribute are its element and the ancestors of that. -/
theorem Node.contains_attr (hn : (attr owner index).IsIn d) :
    TransGen (IsParent d) m (attr owner index) ↔
      m = tree owner ∨ TransGen (IsParent d) m (tree owner) := by
  rw [TransGen.tail'_iff]
  constructor
  · rintro ⟨p, hmp, hp⟩
    obtain rfl := (isParent_attr hn).1 hp
    rcases Relation.reflTransGen_iff_eq_or_transGen.1 hmp with heq | hm
    · exact .inl heq.symm
    · exact .inr hm
  · intro h
    refine ⟨tree owner, ?_, .ofAttribute hn⟩
    rcases h with rfl | hm
    · exact .refl
    · exact hm.to_reflTransGen

@[simp] theorem Node.tree_before_tree {i j : Nat} : (tree i).Before (tree j) ↔ i < j := by
  simp [Before, owner, rank]

theorem Node.attr_before_tree {j : Nat} : (attr owner index).Before (tree j) ↔ owner < j := by
  simp [Before, Node.owner, rank]

theorem Node.tree_before_attr {j : Nat} : (tree j).Before (attr owner index) ↔ j ≤ owner := by
  simp only [Before, Node.owner, rank]
  lia

end

/-! ## What lies along an axis -/

section

variable {d : Document} (h : d.Sound) {id owner index : Nat} {m : Node}

include h

/-- Siblings are the children of one parent. -/
theorem Node.siblings_iff {Q : Prop} :
    (∃ p, HasChild d p (tree id) ∧ HasChild d p m ∧ Q) ↔
      ∃ p, d.parent? id = some p ∧ ∃ j, m = tree j ∧ j ∈ d.children p ∧ Q := by
  constructor
  · rintro ⟨q, hn, hm, hq⟩
    obtain ⟨p, rfl, hc⟩ := hasChild_of_child.1 hn
    obtain ⟨j, rfl, hj⟩ := hasChild_tree.1 hm
    exact ⟨p, h.child_iff.1 hc, j, rfl, hj, hq⟩
  · rintro ⟨p, hp, j, rfl, hj, hq⟩
    exact ⟨tree p, .mk (h.child_iff.2 hp), .mk hj, hq⟩

theorem Node.mem_followingSibling :
    m ∈ alongFromTree d id .followingSibling ↔ Axis.followingSibling.Relates d (tree id) m := by
  rw [Axis.Relates, siblings_iff h, alongFromTree]
  cases hp : d.parent? id with
  | none => simp
  | some p =>
    have hsorted : (d.children p).Pairwise (· < ·) := h.numbered.children_sorted p
    simp only [mem_map_tree, mem_behind hsorted (h.child_iff.2 hp), Option.some.injEq,
      exists_eq_left']
    refine exists_congr fun j => and_congr_right ?_
    rintro rfl
    rw [tree_before_tree]

theorem Node.mem_precedingSibling :
    m ∈ alongFromTree d id .precedingSibling ↔ Axis.precedingSibling.Relates d (tree id) m := by
  rw [Axis.Relates, siblings_iff h, alongFromTree]
  cases hp : d.parent? id with
  | none => simp
  | some p =>
    have hsorted : (d.children p).Pairwise (· < ·) := h.numbered.children_sorted p
    have hlisted : (d.children p).contains id = true :=
      List.contains_iff_mem.2 (h.child_iff.2 hp)
    simp only [hlisted, if_true, mem_map_tree, List.mem_reverse,
      mem_ahead hsorted (h.child_iff.2 hp), Option.some.injEq, exists_eq_left']
    refine exists_congr fun j => and_congr_right ?_
    rintro rfl
    rw [tree_before_tree]

omit h in
theorem Node.isIn_attr : (attr owner index).IsIn d ↔
    ∃ e, d.element? owner = some e ∧ index < e.attributes.length := by
  rw [IsIn, attribute?]
  cases d.element? owner with
  | none => simp
  | some e => simp

omit h in
theorem Node.mem_attributes :
    m ∈ alongFromTree d id .attributes ↔ Axis.attributes.Relates d (tree id) m := by
  rw [Axis.Relates, alongFromTree]
  constructor
  · intro hm
    cases he : d.element? id with
    | none =>
      rw [he] at hm
      cases hm
    | some e =>
      rw [he] at hm
      obtain ⟨i, hi, rfl⟩ := List.mem_map.1 hm
      exact ⟨trivial, .ofAttribute (isIn_attr.2 ⟨e, he, List.mem_range.1 hi⟩)⟩
  · rintro ⟨hattr, hp⟩
    cases hp with
    | ofChild => exact hattr.elim
    | ofAttribute hin =>
      obtain ⟨e, he, hi⟩ := isIn_attr.1 hin
      rw [he]
      exact List.mem_map_of_mem (List.mem_range.2 hi)

/-- What follows a node. -/
theorem Node.mem_following (hid : id < d.size) :
    m ∈ alongFromTree d id .following ↔ Axis.following.Relates d (tree id) m := by
  rw [Axis.Relates, alongFromTree, mem_map_tree, descends_tree]
  constructor
  · rintro ⟨j, rfl, hj⟩
    obtain ⟨hsize, hlt, hout⟩ := (h.mem_following hid).1 hj
    refine ⟨hsize, not_false, tree_before_tree.2 hlt, ?_⟩
    rintro ⟨k, hk, hin⟩
    cases hk
    exact hout hin
  · rintro ⟨hsize, hattr, hbefore, hout⟩
    cases m with
    | attr => exact absurd trivial hattr
    | tree j =>
      refine ⟨j, rfl, (h.mem_following hid).2 ⟨hsize, tree_before_tree.1 hbefore, ?_⟩⟩
      intro hin
      exact hout ⟨j, rfl, hin⟩

/-- What precedes a node. -/
theorem Node.mem_preceding (hid : id < d.size) :
    m ∈ alongFromTree d id .preceding ↔ Axis.preceding.Relates d (tree id) m := by
  rw [Axis.Relates, alongFromTree, mem_map_tree, contains_tree]
  simp only [List.mem_reverse]
  constructor
  · rintro ⟨j, rfl, hj⟩
    obtain ⟨hlt, hout⟩ := (h.mem_preceding hid).1 hj
    refine ⟨Nat.lt_trans hlt hid, not_false, tree_before_tree.2 hlt, ?_⟩
    rintro ⟨k, hk, hin⟩
    cases hk
    exact hout hin
  · rintro ⟨-, hattr, hbefore, hout⟩
    cases m with
    | attr => exact absurd trivial hattr
    | tree j =>
      refine ⟨j, rfl, (h.mem_preceding hid).2 ⟨tree_before_tree.1 hbefore, ?_⟩⟩
      intro hin
      exact hout ⟨j, rfl, hin⟩

/-- Along an axis from a node of the tree lie the nodes in its relation to it. -/
theorem Node.mem_alongFromTree (hid : id < d.size) (axis : Axis) :
    m ∈ alongFromTree d id axis ↔ axis.Relates d (tree id) m := by
  have hdescendants : ∀ j, j ∈ d.descendants id ↔ TransGen d.IsChild id j := by
    intro j
    rw [h.transGen_child_iff hid, Sound.mem_descendants]
  cases axis with
  | child =>
    rw [alongFromTree, Axis.Relates, mem_map_tree, hasChild_tree]
    simp only [IsChild]
  | descendant =>
    rw [alongFromTree, Axis.Relates, mem_map_tree, descends_tree]
    simp only [hdescendants]
  | descendantOrSelf =>
    rw [alongFromTree, Axis.Relates, List.mem_cons, mem_map_tree,
      Relation.reflTransGen_iff_eq_or_transGen, descends_tree]
    simp only [hdescendants]
  | parent =>
    rw [alongFromTree, Axis.Relates, mem_map_tree, isParent_tree]
    simp only [Option.mem_toList, IsChild, h.child_iff]
  | ancestor =>
    rw [alongFromTree, Axis.Relates, mem_map_tree, contains_tree]
    simp only [h.mem_ancestors]
  | ancestorOrSelf =>
    rw [alongFromTree, Axis.Relates, List.mem_cons, mem_map_tree,
      Relation.reflTransGen_iff_eq_or_transGen, contains_tree, @eq_comm _ m]
    simp only [h.mem_ancestors]
  | followingSibling => exact mem_followingSibling h
  | precedingSibling => exact mem_precedingSibling h
  | following => exact mem_following h hid
  | preceding => exact mem_preceding h hid
  | attributes => exact mem_attributes
  | self => rw [alongFromTree, Axis.Relates, List.mem_singleton]

/-- What follows an attribute. -/
theorem Node.mem_following_attr (hn : (attr owner index).IsIn d) :
    m ∈ alongFromAttribute d owner index .following ↔
      Axis.following.Relates d (attr owner index) m := by
  have howner := owner_lt_size hn
  have hlast := h.last_lt howner
  rw [Axis.Relates, alongFromAttribute, List.mem_append, mem_map_tree, mem_map_tree]
  simp only [Sound.mem_descendants, h.mem_following howner, h.transGen_child_iff howner]
  constructor
  · rintro (⟨j, rfl, hlt, hle⟩ | ⟨j, rfl, hsize, hlt, -⟩)
    · have hsize : j < d.size := by lia
      exact ⟨hsize, not_false, attr_before_tree.2 hlt, not_descends_attr⟩
    · exact ⟨hsize, not_false, attr_before_tree.2 hlt, not_descends_attr⟩
  · rintro ⟨hsize, hattr, hbefore, -⟩
    cases m with
    | attr => exact absurd trivial hattr
    | tree j =>
      have hlt := attr_before_tree.1 hbefore
      by_cases hin : j ≤ d.last owner
      · exact .inl ⟨j, rfl, hlt, hin⟩
      · exact .inr ⟨j, rfl, hsize, hlt, fun hout => hin hout.2⟩

/-- What precedes an attribute. -/
theorem Node.mem_preceding_attr (hn : (attr owner index).IsIn d) :
    m ∈ alongFromAttribute d owner index .preceding ↔
      Axis.preceding.Relates d (attr owner index) m := by
  have howner := owner_lt_size hn
  rw [Axis.Relates, alongFromAttribute, mem_map_tree, contains_attr hn, contains_tree]
  simp only [List.mem_reverse, h.mem_preceding howner]
  constructor
  · rintro ⟨j, rfl, hlt, hout⟩
    refine ⟨Nat.lt_trans hlt howner, not_false, tree_before_attr.2 (Nat.le_of_lt hlt), ?_⟩
    rintro (hj | ⟨k, hk, hin⟩)
    · cases hj
      exact Nat.lt_irrefl _ hlt
    · cases hk
      exact hout hin
  · rintro ⟨-, hattr, hbefore, hout⟩
    cases m with
    | attr => exact absurd trivial hattr
    | tree j =>
      rw [not_or] at hout
      have hle := tree_before_attr.1 hbefore
      have hne : j ≠ owner := by
        rintro rfl
        exact hout.1 rfl
      refine ⟨j, rfl, Nat.lt_of_le_of_ne hle hne, ?_⟩
      intro hin
      exact hout.2 ⟨j, rfl, hin⟩

/-- Along an axis from an attribute lie the nodes in its relation to it. -/
theorem Node.mem_alongFromAttribute (hn : (attr owner index).IsIn d) (axis : Axis) :
    m ∈ alongFromAttribute d owner index axis ↔ axis.Relates d (attr owner index) m := by
  have howner := owner_lt_size hn
  have hancestor : m ∈ (d.ancestors owner).map tree ↔ TransGen (IsParent d) m (tree owner) :=
    mem_alongFromTree h howner .ancestor
  -- an attribute has a parent but is no child of it, so it has no siblings
  have hnoParent : ∀ p, ¬ HasChild d p (attr owner index) := by
    rintro p ⟨⟩
  cases axis with
  | child =>
    simp only [alongFromAttribute, Axis.Relates, List.not_mem_nil, not_hasChild_attr]
  | descendant =>
    simp only [alongFromAttribute, Axis.Relates, List.not_mem_nil, not_descends_attr]
  | descendantOrSelf =>
    simp only [alongFromAttribute, Axis.Relates, List.mem_singleton,
      Relation.reflTransGen_iff_eq_or_transGen, not_descends_attr, or_false]
  | parent => rw [alongFromAttribute, Axis.Relates, List.mem_singleton, isParent_attr hn]
  | ancestor =>
    rw [alongFromAttribute, Axis.Relates, List.mem_cons, contains_attr hn, hancestor]
  | ancestorOrSelf =>
    rw [alongFromAttribute, Axis.Relates, List.mem_cons, List.mem_cons,
      Relation.reflTransGen_iff_eq_or_transGen, contains_attr hn, hancestor, @eq_comm _ m]
  | followingSibling | precedingSibling =>
    simp only [alongFromAttribute, Axis.Relates, List.not_mem_nil, hnoParent, false_and,
      exists_false]
  | following => exact mem_following_attr h hn
  | preceding => exact mem_preceding_attr h hn
  | attributes =>
    simp only [alongFromAttribute, Axis.Relates, List.not_mem_nil, false_iff]
    rintro ⟨-, ⟨⟩⟩
  | self => rw [alongFromAttribute, Axis.Relates, List.mem_singleton]

/-- **Along an axis lie the nodes in its relation**, and no others. -/
theorem Node.mem_along {n : Node} (hn : n.IsIn d) (axis : Axis) :
    m ∈ n.along d axis ↔ axis.Relates d n m := by
  cases n with
  | tree id => exact mem_alongFromTree h hn axis
  | attr owner index => exact mem_alongFromAttribute h hn axis

end

end XmlAudit.XPath
