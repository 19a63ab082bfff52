import XmlAudit.Proofs.XPath.Axes

/-!
# Finding one's way along the axes

* `Node.along_arranged`: along every axis the nearest nodes come first.
* `bearings_perm`: five axes share out the tree.
* `along_inverse`: pairs of axes that lead to and fro.
* `inWalk_ordered`: document order is the order in which a walk comes to the nodes.
* `parse_navigable`: so it is in every document that can be read.
-/

namespace XmlAudit.XPath

open Xml (Document NodeId)
open Xml.Document

/-! ## The order along an axis -/

/-- The axes along which nodes come in the reverse of document order. -/
def Axis.isReverse : Axis → Bool
  | ancestor | ancestorOrSelf | precedingSibling | preceding => true
  | _ => false

/-- The nodes of a list come in the order of an axis, the nearest first: in document order, or in its
reverse. -/
def Axis.Arranges (axis : Axis) (ns : List Node) : Prop :=
  Ordered (if axis.isReverse then ns.reverse else ns)

theorem Axis.Arranges.nodup {axis : Axis} {ns : List Node} (h : axis.Arranges ns) : ns.Nodup := by
  rw [Axis.Arranges] at h
  split at h
  · exact List.nodup_reverse.1 h.nodup
  · exact h.nodup

section

variable {d : Document} {ids : List Nat}

theorem ordered_map_tree (hs : ids.Pairwise (· < ·)) : Ordered (ids.map .tree) := by
  rw [Ordered, List.pairwise_map]
  exact hs.imp Node.tree_before_tree.2

theorem ordered_reverse_map_tree (hs : ids.Pairwise fun a b => b < a) :
    Ordered (ids.map .tree).reverse := by
  rw [← List.map_reverse]
  exact ordered_map_tree (List.pairwise_reverse.2 hs)

theorem idsBetween_sorted (first stop : Nat) : (idsBetween first stop).Pairwise (· < ·) :=
  List.pairwise_lt_range'

variable (h : d.Sound)

include h

/-- The nearest nodes from a node of the tree come first. -/
theorem Node.alongFromTree_arranged (id : NodeId) (axis : Axis) :
    axis.Arranges (alongFromTree d id axis) := by
  have hchildren : ∀ p, (d.children p).Pairwise (· < ·) := h.numbered.children_sorted
  -- forward axes list rising numbers, backward ones falling numbers
  cases axis with
  | child => exact ordered_map_tree (hchildren id)
  | descendant => exact ordered_map_tree (idsBetween_sorted _ _)
  | descendantOrSelf =>
    refine ordered_map_tree (List.pairwise_cons.2 ⟨?_, idsBetween_sorted _ _⟩)
    intro j hj
    exact (Sound.mem_descendants.1 hj).1
  | parent =>
    rw [alongFromTree]
    cases d.parent? id with
    | none => exact .nil
    | some p => exact ordered_singleton _
  | ancestor => exact ordered_reverse_map_tree h.ancestors_sorted
  | ancestorOrSelf =>
    refine ordered_reverse_map_tree (List.pairwise_cons.2 ⟨?_, h.ancestors_sorted⟩)
    intro j hj
    exact h.lt_of_transGen (h.mem_ancestors.1 hj)
  | followingSibling =>
    rw [alongFromTree]
    cases d.parent? id with
    | none => exact .nil
    | some p =>
      have hsub := (List.drop_sublist 1 _).trans (List.dropWhile_sublist (l := d.children p) (· ≠ id))
      exact ordered_map_tree ((hchildren p).sublist hsub)
  | precedingSibling =>
    rw [alongFromTree]
    cases d.parent? id with
    | none => exact .nil
    | some p =>
      have hsub := List.takeWhile_sublist (l := d.children p) (· ≠ id)
      simp only
      split
      · exact ordered_reverse_map_tree (List.pairwise_reverse.2 ((hchildren p).sublist hsub))
      · exact .nil
  | following => exact ordered_map_tree (idsBetween_sorted _ _)
  | preceding =>
    refine ordered_reverse_map_tree (List.pairwise_reverse.2 ?_)
    exact (idsBetween_sorted _ _).sublist List.filter_sublist
  | attributes =>
    rw [alongFromTree]
    cases d.element? id with
    | none => exact .nil
    | some e =>
      refine List.pairwise_map.2 (List.pairwise_lt_range.imp ?_)
      intro i j hij
      exact (before_attr id i).2 j hij
  | self => exact ordered_singleton _

/-- **The nearest nodes come first** along every axis. -/
theorem Node.along_arranged {n : Node} (hn : n.IsIn d) (axis : Axis) :
    axis.Arranges (n.along d axis) := by
  cases n with
  | tree id => exact alongFromTree_arranged h id axis
  | attr owner index =>
    have howner := owner_lt_size hn
    cases axis with
    | self | descendantOrSelf | parent => exact ordered_singleton _
    | ancestor => exact alongFromTree_arranged h owner .ancestorOrSelf
    | ancestorOrSelf =>
      -- the attribute comes behind its element and all ancestors of that
      have hordered : Ordered ((alongFromTree d owner .ancestorOrSelf).reverse ++ [attr owner index]) := by
        refine List.pairwise_append.2 ⟨alongFromTree_arranged h owner .ancestorOrSelf,
          ordered_singleton _, ?_⟩
        intro a ha b hb
        obtain rfl := List.mem_singleton.1 hb
        rcases List.mem_cons.1 (List.mem_reverse.1 ha) with rfl | ha
        · exact (before_attr owner index).1
        · obtain ⟨j, rfl, hj⟩ := mem_map_tree.1 ha
          exact tree_before_attr.2 (Nat.le_of_lt (h.lt_of_transGen (h.mem_ancestors.1 hj)))
      rwa [← List.reverse_cons] at hordered
    | following =>
      have hlast := h.le_last howner
      refine List.pairwise_append.2 ⟨alongFromTree_arranged h owner .descendant,
        alongFromTree_arranged h owner .following, ?_⟩
      intro a ha b hb
      obtain ⟨i, rfl, hi⟩ := mem_map_tree.1 ha
      obtain ⟨j, rfl, hj⟩ := mem_map_tree.1 hb
      have hle := (Sound.mem_descendants.1 hi).2
      have hlt := ((h.mem_following howner).1 hj).2
      rw [h.transGen_child_iff howner] at hlt
      rw [tree_before_tree]
      lia
    | preceding => exact alongFromTree_arranged h owner .preceding
    | child | descendant | followingSibling | precedingSibling | attributes => exact .nil

end

/-! ## The tree seen from a node -/

/-- Where a node `j` of the tree lies, seen from `id`: along which of five axes. -/
def bearing (d : Document) (id j : NodeId) : Axis :=
  if j = id then .self
  else if j < id then
    if j ∈ d.ancestors id then .ancestor else .preceding
  else if j ≤ d.last id then .descendant
  else .following

/-- The axes that share out the tree. -/
def bearings : List Axis := [.self, .ancestor, .descendant, .preceding, .following]

section

variable {d : Document} (h : d.Sound) {id : Nat} (hid : id < d.size)

include h hid

theorem mem_along_bearing {axis : Axis} (haxis : axis ∈ bearings) {m : Node} :
    m ∈ (Node.tree id).along d axis ↔ ∃ j, m = .tree j ∧ j < d.size ∧ bearing d id j = axis := by
  have hlast := h.last_lt hid
  have hle := h.le_last hid
  have hancestor : ∀ j ∈ d.ancestors id, j < id := by
    intro j hj
    exact h.lt_of_transGen (h.mem_ancestors.1 hj)
  have hpreceding : ∀ j, j ∈ d.preceding id ↔ j < id ∧ j ∉ d.ancestors id := by
    intro j
    rw [h.mem_preceding hid, h.mem_ancestors]
  have hfollowing : ∀ j, j ∈ d.following id ↔ j < d.size ∧ id < j ∧ ¬ (id < j ∧ j ≤ d.last id) := by
    intro j
    rw [h.mem_following hid, h.transGen_child_iff hid]
  have hself : m ∈ [Node.tree id] ↔ ∃ j, m = .tree j ∧ j = id := by
    simp
  have hall : axis = .self ∨ axis = .ancestor ∨ axis = .descendant ∨ axis = .preceding ∨
      axis = .following := by
    simpa [bearings] using haxis
  -- all but ancestry is a matter of numbers: before `id`, in its subtree, or behind that
  rcases hall with rfl | rfl | rfl | rfl | rfl
  all_goals
    simp only [Node.along, Node.alongFromTree, Node.mem_map_tree, hself, List.mem_reverse,
      Sound.mem_descendants, hpreceding, hfollowing]
    refine exists_congr fun j => and_congr_right fun _ => ?_
    have hj := hancestor j
    unfold bearing
    split_ifs <;> simp <;> lia

/-- **Every node of the tree lies along exactly one of the five axes.** -/
theorem bearings_perm : (bearings.flatMap ((Node.tree id).along d)).Perm
    ((List.range d.size).map .tree) := by
  have hin : (Node.tree id).IsIn d := hid
  refine (List.perm_ext_iff_of_nodup ?_ ?_).2 ?_
  · refine List.nodup_flatMap.2 ⟨?_, ?_⟩
    · intro axis _
      exact (Node.along_arranged h hin axis).nodup
    · have hdistinct : bearings.Nodup := by decide
      refine hdistinct.imp_of_mem ?_
      intro axis axis' ha ha' hne m hm hm'
      obtain ⟨j, rfl, -, hj⟩ := (mem_along_bearing h hid ha).1 hm
      obtain ⟨k, hk, -, hk'⟩ := (mem_along_bearing h hid ha').1 hm'
      cases hk
      exact hne (hj.symm.trans hk')
  · exact (ordered_map_tree List.pairwise_lt_range).nodup
  · intro m
    have hbearing : ∀ j, bearing d id j ∈ bearings := by
      intro j
      unfold bearing
      split_ifs <;> decide
    rw [List.mem_flatMap, Node.mem_map_tree]
    constructor
    · rintro ⟨axis, haxis, hm⟩
      obtain ⟨j, rfl, hj, -⟩ := (mem_along_bearing h hid haxis).1 hm
      exact ⟨j, rfl, List.mem_range.2 hj⟩
    · rintro ⟨j, rfl, hj⟩
      exact ⟨_, hbearing j, (mem_along_bearing h hid (hbearing j)).2
        ⟨j, rfl, List.mem_range.1 hj, rfl⟩⟩

end

/-! ## Inverse axes -/

/-- Pairs of axes of which one leads back where the other comes from. -/
inductive Axis.Inverse : Axis → Axis → Prop
  | child : Inverse child parent
  | descendant : Inverse descendant ancestor
  | following : Inverse following preceding
  | followingSibling : Inverse followingSibling precedingSibling

theorem along_inverse {d : Document} (h : d.Sound) {axis back : Axis} (hinv : axis.Inverse back)
    {a b : Nat} (ha : a < d.size) (hb : b < d.size) :
    .tree b ∈ (Node.tree a).along d axis ↔ .tree a ∈ (Node.tree b).along d back := by
  have hina : (Node.tree a).IsIn d := ha
  have hinb : (Node.tree b).IsIn d := hb
  rw [Node.mem_along h hina, Node.mem_along h hinb]
  cases hinv with
  | child =>
    rw [Axis.Relates, Axis.Relates, Node.hasChild_tree, Node.isParent_tree]
    simp
  | descendant =>
    rw [Axis.Relates, Axis.Relates, Node.descends_tree, Node.contains_tree]
    simp
  | following =>
    rw [Axis.Relates, Axis.Relates, Node.descends_tree, Node.contains_tree]
    simp [hina, hinb, Node.IsAttribute]
  | followingSibling =>
    rw [Axis.Relates, Axis.Relates]
    refine exists_congr fun p => ?_
    tauto

/-! ## Document order -/

/-- The attributes of a node of the tree. -/
def attributesOf (d : Document) (id : NodeId) : List Node :=
  match d.element? id with
  | some e => (List.range e.attributes.length).map (.attr id)
  | none => []

/-- **All nodes of a document in the order of a walk** that comes to a node of the tree, then to its
attributes and then to its children. -/
def inWalk (d : Document) : List Node :=
  (d.preorder Document.root).flatMap fun id => .tree id :: attributesOf d id

section

variable {d : Document} (h : d.Sound) {id : Nat} {n : Node}

theorem owner_of_mem (hn : n ∈ Node.tree id :: attributesOf d id) : n.owner = id := by
  rcases List.mem_cons.1 hn with rfl | hn
  · rfl
  · rw [attributesOf] at hn
    split at hn
    · obtain ⟨i, -, rfl⟩ := List.mem_map.1 hn
      rfl
    · cases hn

theorem mem_attributesOf {index : Nat} :
    .attr id index ∈ attributesOf d id ↔ (Node.attr id index).IsIn d := by
  have hmem : .attr id index ∈ attributesOf d id ↔
      Axis.attributes.Relates d (.tree id) (.attr id index) := Node.mem_attributes
  rw [hmem, Axis.Relates]
  constructor
  · rintro ⟨-, hp⟩
    cases hp with
    | ofAttribute hin => exact hin
  · intro hin
    exact ⟨trivial, .ofAttribute hin⟩

include h

/-- **The walk comes to the nodes in document order.** -/
theorem inWalk_ordered : Ordered (inWalk d) := by
  rw [Ordered, inWalk, h.preorder_root, List.pairwise_flatMap]
  constructor
  · intro id _
    have hattributes : Axis.attributes.Arranges (attributesOf d id) :=
      Node.alongFromTree_arranged h id .attributes
    refine List.pairwise_cons.2 ⟨?_, hattributes⟩
    intro n hn
    cases n with
    | tree j =>
      have hrelated : Axis.attributes.Relates d (.tree id) (.tree j) := Node.mem_attributes.1 hn
      exact hrelated.1.elim
    | attr owner index =>
      obtain rfl : owner = id := owner_of_mem (List.mem_cons_of_mem _ hn)
      exact (Node.before_attr owner index).1
  · refine List.pairwise_lt_range.imp ?_
    intro i j hij a ha b hb
    left
    rw [owner_of_mem ha, owner_of_mem hb]
    exact hij

/-- The walk comes to every node. -/
theorem mem_inWalk : n ∈ inWalk d ↔ n.IsIn d := by
  rw [inWalk, h.preorder_root, List.mem_flatMap]
  constructor
  · rintro ⟨id, hid, hn⟩
    cases n with
    | tree j =>
      obtain rfl : j = id := owner_of_mem hn
      exact List.mem_range.1 hid
    | attr owner index =>
      obtain rfl : owner = id := owner_of_mem hn
      rcases List.mem_cons.1 hn with heq | hn
      · cases heq
      · exact mem_attributesOf.1 hn
  · intro hn
    cases n with
    | tree j => exact ⟨j, List.mem_range.2 hn, List.mem_cons_self⟩
    | attr owner index =>
      refine ⟨owner, List.mem_range.2 (Node.owner_lt_size hn), ?_⟩
      exact List.mem_cons_of_mem _ (mem_attributesOf.2 hn)

end

/-! ## Documents -/

/-- **The axes lead where they should**, from the nodes of the tree and from attributes. -/
structure Navigable (d : Document) : Prop where
  /-- Document order is the order in which a walk comes to the nodes. -/
  walk : Ordered (inWalk d) ∧ ∀ n, n ∈ inWalk d ↔ n.IsIn d
  /-- Along an axis lie the nodes that stand in its relation, and no others. -/
  related : ∀ n : Node, n.IsIn d → ∀ axis m, m ∈ n.along d axis ↔ axis.Relates d n m
  /-- No node lies twice along an axis. -/
  once : ∀ n : Node, n.IsIn d → ∀ axis, (n.along d axis).Nodup
  /-- The nearest nodes come first: in document order, or along four of the axes in its reverse. -/
  arranged : ∀ n : Node, n.IsIn d → ∀ axis : Axis, axis.Arranges (n.along d axis)
  /-- Five axes share out the tree. -/
  shared : ∀ id < d.size, ([Axis.self, .ancestor, .descendant, .preceding, .following].flatMap
    ((Node.tree id).along d)).Perm ((List.range d.size).map .tree)
  /-- Four pairs of axes are inverse to one another on the tree. -/
  inverse : ∀ axis back : Axis, axis.Inverse back → ∀ a < d.size, ∀ b < d.size,
    (.tree b ∈ (Node.tree a).along d axis ↔ .tree a ∈ (Node.tree b).along d back)
  /-- An attribute is followed by what is inside its element and by what follows that. -/
  following_attr : ∀ owner index, (Node.attr owner index).IsIn d →
    (Node.attr owner index).along d .following =
      (Node.tree owner).along d .descendant ++ (Node.tree owner).along d .following
  /-- An attribute is preceded by what precedes its element. -/
  preceding_attr : ∀ owner index, (Node.attr owner index).IsIn d →
    (Node.attr owner index).along d .preceding = (Node.tree owner).along d .preceding

/-- **The axes of every document that can be read** are the relations between its nodes, in the order
of proximity. -/
theorem parse_navigable {bytes : List UInt8} {d : Document} (h : Document.parse bytes = .ok d) :
    Navigable d := by
  have hd := Document.parse_sound h
  have harranged : ∀ n : Node, n.IsIn d → ∀ axis : Axis, axis.Arranges (n.along d axis) := by
    intro n hn axis
    exact Node.along_arranged hd hn axis
  exact
    { walk := ⟨inWalk_ordered hd, fun n => mem_inWalk hd⟩
      related := fun n hn axis m => Node.mem_along hd hn axis
      once := fun n hn axis => (harranged n hn axis).nodup
      arranged := harranged
      shared := fun id hid => bearings_perm hd hid
      inverse := fun axis back hinv a ha b hb => along_inverse hd hinv ha hb
      following_attr := fun owner index _ => rfl
      preceding_attr := fun owner index _ => rfl }

/-- In the document `<a><b c='d'>x</b><e/></a>`, the attribute is followed by the text and the last
element, and the ancestors of the text are told from the inside to the outside. -/
theorem parse_navigable_nested : ∃ d : Document,
    Document.parse "<a><b c='d'>x</b><e/></a>".toUTF8.toList = .ok d ∧ Navigable d ∧
      (Node.attr 2 0).IsIn d ∧ (Node.attr 2 0).along d .following = [.tree 3, .tree 4] ∧
      (Node.tree 3).along d .ancestor = [.tree 2, .tree 1, .tree 0] ∧
      (Node.tree 4).along d .preceding = [.tree 3, .tree 2] := by
  have hread : (Document.parse "<a><b c='d'>x</b><e/></a>".toUTF8.toList).toOption.any (fun d =>
      ((Node.attr 2 0).attribute? d).isSome ∧
        (Node.attr 2 0).along d .following = [.tree 3, .tree 4] ∧
        (Node.tree 3).along d .ancestor = [.tree 2, .tree 1, .tree 0] ∧
        (Node.tree 4).along d .preceding = [.tree 3, .tree 2]) = true := by decide +kernel
  obtain ⟨d, hd, h⟩ := (Option.any_eq_true _ _).1 hread
  replace hd := toOption_eq_some.1 hd
  have hfacts := of_decide_eq_true h
  exact ⟨d, hd, parse_navigable hd, hfacts⟩

end XmlAudit.XPath
