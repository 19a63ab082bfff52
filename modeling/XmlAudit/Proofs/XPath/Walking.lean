import XmlAudit.Proofs.Number.Position
import XmlAudit.Proofs.XPath.IndexedPath
import XmlAudit.Proofs.XPath.NodeSets

/-!
# Where paths of names and positions lead

* `filterFrom_number`: a predicate that is a number keeps the node at that position.
* `indexedStep_from`: a child step with a position finds at most one child.
* `attributeStep_from`: a step to an attribute finds it if no other one passes its test.
* `walk_append`, `walk_nil`: steps one after the other.
-/

namespace XmlAudit.XPath

open Number (Decimal.read Decimal.read_beq_ofNat)
open Xml (NodeId QName)

/-! ## Filters -/

section

variable {α ε : Type} {f : α → Except ε Bool} {p : α → Bool} {l : List α}

theorem filterAuxM_eq_ok (h : ∀ a ∈ l, f a = .ok (p a)) (kept : List α) :
    l.filterAuxM f kept = .ok ((l.filter p).reverse ++ kept) := by
  induction l generalizing kept with
  | nil => rfl
  | cons a l ih =>
    obtain ⟨ha, hl⟩ := List.forall_mem_cons.1 h
    rw [List.filterAuxM, ha, List.filter_cons]
    refine bind_eq_ok.2 ⟨p a, rfl, ?_⟩
    rw [ih hl]
    cases p a <;> simp

/-- A test that always succeeds filters as its outcomes say. -/
theorem filterM_eq_ok (h : ∀ a ∈ l, f a = .ok (p a)) : l.filterM f = .ok (l.filter p) := by
  refine bind_eq_ok.2 ⟨_, filterAuxM_eq_ok h [], ?_⟩
  rw [List.append_nil, List.reverse_reverse]
  rfl

end

variable {c : Context} {x : Float} {size position : Nat} {ns : List Node}

/-- What a predicate that is a number asks of a node in focus. -/
def asksFor (c : Context) (x : Float) (focus : Focus) : Except EvalFault Bool := do
  return (← (Expr.number x).eval c focus).keeps focus.position

theorem asksFor_eq (focus : Focus) : asksFor c x focus = .ok (x == Float.ofNat focus.position) := by
  rw [asksFor, Expr.eval]
  rfl

theorem filterFrom_none (h : ∀ i < ns.length, (x == Float.ofNat (position + i)) = false) :
    filterFrom (asksFor c x) size position ns = .ok [] := by
  induction ns generalizing position with
  | nil => rfl
  | cons n ns ih =>
    have hhead := h 0 (Nat.zero_lt_succ _)
    have htail : ∀ i < ns.length, (x == Float.ofNat (position + 1 + i)) = false := by
      intro i hi
      rw [Nat.add_assoc, Nat.add_comm 1]
      exact h (i + 1) (Nat.succ_lt_succ hi)
    rw [Nat.add_zero] at hhead
    rw [filterFrom, asksFor_eq, ih htail]
    simp only [hhead]
    rfl

/-- **A predicate that is a number keeps the node at its position.** -/
theorem filterFrom_number {k : Nat}
    (h : ∀ i < ns.length, (x == Float.ofNat (position + i)) = true ↔ i = k) :
    filterFrom (asksFor c x) size position ns = .ok ns[k]?.toList := by
  -- positions are counted up along the nodes, and `k` down
  induction ns generalizing position k with
  | nil => rfl
  | cons n ns ih =>
    have hhead := h 0 (Nat.zero_lt_succ _)
    have htail : ∀ i < ns.length, ((x == Float.ofNat (position + 1 + i)) = true ↔ i + 1 = k) := by
      intro i hi
      rw [Nat.add_assoc, Nat.add_comm 1]
      exact h (i + 1) (Nat.succ_lt_succ hi)
    rw [Nat.add_zero] at hhead
    rw [filterFrom, asksFor_eq]
    cases k with
    | zero =>
      have hnone : filterFrom (asksFor c x) size (position + 1) ns = .ok [] := by
        refine filterFrom_none fun i hi => ?_
        rw [Bool.eq_false_iff]
        intro hx
        exact Nat.succ_ne_zero i ((htail i hi).1 hx)
      simp only [hhead.2 rfl, hnone]
      rfl
    | succ k =>
      have hrest := ih fun i hi => (htail i hi).trans Nat.succ_inj
      have hfalse : (x == Float.ofNat position) = false := by
        rw [Bool.eq_false_iff]
        intro hx
        exact Nat.succ_ne_zero k (hhead.1 hx).symm
      simp only [hfalse, hrest, List.getElem?_cons_succ]
      rfl

/-- The same for a position that is spelled in digits. -/
theorem keepAll_position {k : Nat} (hlen : ns.length < 2 ^ 53) (hk : k + 1 < 2 ^ 53) :
    keepAll c [.number (Decimal.read false (Nat.toDigits 10 (k + 1)))] ns = .ok ns[k]?.toList := by
  have hkept : filterFrom (asksFor c (Decimal.read false (Nat.toDigits 10 (k + 1)))) ns.length 1 ns =
      .ok ns[k]?.toList := by
    refine filterFrom_number fun i hi => ?_
    rw [Decimal.read_beq_ofNat (by omega) hk (by omega) (by omega)]
    omega
  rw [keepAll]
  refine bind_eq_ok.2 ⟨_, hkept, ?_⟩
  rw [keepAll]

/-! ## Steps -/

/-- **A child step with a position finds the child at that position** among those that pass its
test. -/
theorem indexedStep_from {p : NodeId} {test : NameTest} {k : Nat} {passes : NodeId → Bool}
    (hpasses : ∀ i ∈ c.document.children p,
      Node.satisfies c.document c.namespaces .child (.named test) (.tree i) = .ok (passes i))
    (hlen : (c.document.children p).length < 2 ^ 53) (hk : k + 1 < 2 ^ 53) :
    (indexedStep (test, k + 1)).from c (.tree p) =
      .ok (((c.document.children p).filter passes)[k]?.map Node.tree).toList := by
  have hfound : candidates c .child (.named test) (.tree p) =
      .ok (((c.document.children p).filter passes).map .tree) := by
    have hall : ∀ m ∈ Node.along c.document (.tree p) .child,
        Node.satisfies c.document c.namespaces .child (.named test) m =
          .ok (passes m.owner) := by
      intro m hm
      obtain ⟨i, hi, rfl⟩ := List.mem_map.1 hm
      exact hpasses i hi
    rw [candidates, filterM_eq_ok hall]
    exact congrArg Except.ok List.filter_map
  rw [indexedStep, Step.from, hfound]
  refine (keepAll_position ?_ hk).trans ?_
  · rw [List.length_map]
    exact Nat.lt_of_le_of_lt (List.length_filter_le _ _) hlen
  · rw [List.getElem?_map]

/-- **A step to an attribute finds it** if no other one passes its test. -/
theorem attributeStep_from {id i : Nat} {e : Xml.Element} {n : QName}
    (he : c.document.element? id = some e) (hi : i < e.attributes.length)
    (hpasses : ∀ j < e.attributes.length,
      Node.satisfies c.document c.namespaces .attributes (.named (testOf n)) (.attr id j) =
        .ok (j == i)) :
    (attributeStep n).from c (.tree id) = .ok [.attr id i] := by
  have halong : Node.along c.document (.tree id) .attributes =
      (List.range e.attributes.length).map (.attr id) := by
    simp only [Node.along, Node.alongFromTree, he]
  -- the rank of an attribute tells its index, as a test on nodes has to
  have hall : ∀ m ∈ Node.along c.document (.tree id) .attributes,
      Node.satisfies c.document c.namespaces .attributes (.named (testOf n)) m =
        .ok (m.rank == i + 1) := by
    intro m hm
    rw [halong] at hm
    obtain ⟨j, hj, rfl⟩ := List.mem_map.1 hm
    rw [hpasses j (List.mem_range.1 hj)]
    simp [Node.rank]
  have honly : (List.range e.attributes.length).filter (· == i) = [i] := by
    rw [List.filter_beq, List.count_eq_one_of_mem List.nodup_range (List.mem_range.2 hi)]
    rfl
  rw [attributeStep, Step.from, candidates, filterM_eq_ok hall, halong, List.filter_map]
  have hsame : ((fun m : Node => m.rank == i + 1) ∘ Node.attr id) = (· == i) := by
    funext j
    simp [Node.rank]
  rw [hsame, honly]
  exact bind_eq_ok.2 ⟨_, rfl, by rw [keepAll]; rfl⟩

/-! ## Walks -/

theorem inOrder_singleton (n : Node) : inOrder [n] = [n] := by
  rw [inOrder, List.mergeSort_singleton, dropRepeats]

theorem inOrder_nil : inOrder [] = [] := by
  rw [inOrder, List.mergeSort_nil, dropRepeats]

theorem walk_nil (steps : List Step) : walk c steps [] = .ok [] := by
  induction steps with
  | nil => rw [walk]
  | cons s steps ih =>
    rw [walk]
    refine bind_eq_ok.2 ⟨[], rfl, ?_⟩
    rw [List.flatten_nil, inOrder_nil]
    exact ih

theorem walk_append (steps later : List Step) (ns : List Node) :
    walk c (steps ++ later) ns = walk c steps ns >>= walk c later := by
  induction steps generalizing ns with
  | nil => rw [List.nil_append, walk]; rfl
  | cons s steps ih =>
    rw [List.cons_append, walk, walk, bind_assoc]
    simp only [ih]

/-- A step from one node to at most one node. -/
theorem walk_cons {s : Step} {steps : List Step} {n : Node} {m : Option Node}
    (h : s.from c n = .ok m.toList) : walk c (s :: steps) [n] = walk c steps m.toList := by
  have hreached : [n].mapM (fun n => s.from c n) = .ok [m.toList] := by
    refine mapM_eq_ok.2 ?_
    exact .cons h .nil
  have horder : inOrder [m.toList].flatten = m.toList := by
    cases m with
    | none => exact inOrder_nil
    | some m => exact inOrder_singleton m
  rw [walk, hreached]
  exact congrArg (walk c steps) horder

end XmlAudit.XPath
