import XmlAudit.Proofs.Outcome
import XmlAudit.XPath.Query

/-!
# Nodes in document order

* `Node.Before`: document order, strictly.
* `inOrder_ordered`, `mem_inOrder`: what sorting does to a list of nodes.
* `Expr.eval_ordered`: whatever nodes an expression gives are in document order, each once, if those
  bound to variables are.
-/

namespace XmlAudit.XPath

/-! ## Document order -/

namespace Node

/-- A node comes before another one in document order. -/
def Before (a b : Node) : Prop := a.owner < b.owner ∨ a.owner = b.owner ∧ a.rank < b.rank

variable {a b c : Node}

theorem le_iff : a.le b ↔ a.owner < b.owner ∨ a.owner = b.owner ∧ a.rank ≤ b.rank := by
  simp [le]

theorem le_trans (h : a.le b) (h' : b.le c) : a.le c := by
  rw [le_iff] at *
  lia

theorem le_total (a b : Node) : (a.le b || b.le a) = true := by
  rw [Bool.or_eq_true, le_iff, le_iff]
  lia

/-- A node has its place in document order for itself. -/
theorem eq_of_place (ho : a.owner = b.owner) (hr : a.rank = b.rank) : a = b := by
  cases a with
  | tree i =>
    cases b with
    | tree j => obtain rfl : i = j := ho; rfl
    | attr j k => simp [rank] at hr
  | attr i k =>
    cases b with
    | tree j => simp [rank] at hr
    | attr j l =>
      obtain rfl : i = j := ho
      obtain rfl : k = l := Nat.succ.inj hr
      rfl

theorem before_of_le_of_ne (h : a.le b) (hne : a ≠ b) : a.Before b := by
  rcases le_iff.1 h with ho | ⟨ho, hr⟩
  · exact .inl ho
  · refine .inr ⟨ho, Nat.lt_of_le_of_ne hr ?_⟩
    intro heq
    exact hne (eq_of_place ho heq)

theorem Before.ne (h : a.Before b) : a ≠ b := by
  rintro rfl
  rcases h with h | ⟨-, h⟩ <;> exact Nat.lt_irrefl _ h

theorem Before.trans (h : a.Before b) (h' : b.Before c) : a.Before c := by
  simp only [Before] at *
  lia

end Node

/-- Nodes in document order, each once. -/
def Ordered (ns : List Node) : Prop := ns.Pairwise Node.Before

theorem Ordered.nodup {ns : List Node} (h : Ordered ns) : ns.Nodup :=
  h.imp Node.Before.ne

theorem ordered_singleton (n : Node) : Ordered [n] := List.pairwise_singleton _ n

@[simp] theorem mem_dropRepeats {n : Node} : ∀ {ns : List Node}, n ∈ dropRepeats ns ↔ n ∈ ns
  | [] => Iff.rfl
  | [_] => Iff.rfl
  | a :: b :: rest => by
    rw [dropRepeats]
    split
    · next hab => rw [mem_dropRepeats, hab]; simp
    · rw [List.mem_cons, mem_dropRepeats, ← List.mem_cons]

/-- In a sorted list, repetitions are neighbours. -/
theorem dropRepeats_ordered : ∀ {ns : List Node}, ns.Pairwise (fun a b => a.le b) →
    Ordered (dropRepeats ns)
  | [], _ => .nil
  | [n], _ => ordered_singleton n
  | a :: b :: rest, h => by
    obtain ⟨ha, hrest⟩ := List.pairwise_cons.1 h
    have ih := dropRepeats_ordered hrest
    rw [dropRepeats]
    split
    · exact ih
    · next hne =>
      refine List.pairwise_cons.2 ⟨?_, ih⟩
      have hab := Node.before_of_le_of_ne (ha b List.mem_cons_self) hne
      intro n hn
      rcases List.mem_cons.1 (mem_dropRepeats.1 hn) with rfl | hn'
      · exact hab
      · -- `a` is strictly before `b`, which is not behind `n`
        have hbn := (List.pairwise_cons.1 hrest).1 n hn'
        rw [Node.le_iff] at hbn
        simp only [Node.Before] at *
        lia

theorem inOrder_ordered (ns : List Node) : Ordered (inOrder ns) :=
  dropRepeats_ordered
    (@List.pairwise_mergeSort Node Node.le (fun _ _ _ h => Node.le_trans h) Node.le_total ns)

@[simp] theorem mem_inOrder {ns : List Node} {n : Node} : n ∈ inOrder ns ↔ n ∈ ns := by
  rw [inOrder, mem_dropRepeats, List.mem_mergeSort]

/-! ## What expressions give -/

/-- The nodes of a value are in document order, each once. -/
def Value.Ordered : Value → Prop
  | nodes ns => XPath.Ordered ns
  | _ => True

/-- The nodes bound to variables are in document order, each once. -/
def OrderedBindings (bindings : List (String × Value)) : Prop := ∀ b ∈ bindings, b.2.Ordered

theorem orderedBindings_nil : OrderedBindings [] := List.forall_mem_nil _

theorem filterFrom_sublist {holds : Focus → Except EvalFault Bool} {size : Nat} :
    ∀ {ns : List Node} {position : Nat} {kept : List Node},
    filterFrom holds size position ns = .ok kept → kept.Sublist ns
  | [], _, _, h => by cases h; exact .refl _
  | n :: ns, position, kept, h => by
    obtain ⟨keep, -, h⟩ := bind_eq_ok.1 h
    obtain ⟨later, hl, h⟩ := bind_eq_ok.1 h
    have ih := filterFrom_sublist hl
    cases h
    split
    · exact ih.cons_cons n
    · exact ih.cons n

theorem keepAll_sublist {c : Context} : ∀ {predicates : List Expr} {ns kept : List Node},
    keepAll c predicates ns = .ok kept → kept.Sublist ns
  | [], _, _, h => by rw [keepAll] at h; cases h; exact .refl _
  | e :: es, ns, kept, h => by
    rw [keepAll] at h
    obtain ⟨first, hf, h⟩ := bind_eq_ok.1 h
    exact (keepAll_sublist h).trans (filterFrom_sublist hf)

theorem walk_ordered {c : Context} : ∀ {steps : List Step} {ns reached : List Node}, Ordered ns →
    walk c steps ns = .ok reached → Ordered reached
  | [], _, _, ho, h => by rw [walk] at h; cases h; exact ho
  | s :: rest, _, _, _, h => by
    rw [walk] at h
    obtain ⟨rs, -, h⟩ := bind_eq_ok.1 h
    exact walk_ordered (inOrder_ordered _) h

theorem toNodes_eq_ok {user : String} {v : Value} {ns : List Node} :
    v.toNodes user = .ok ns ↔ v = .nodes ns := by
  cases v <;> simp [Value.toNodes]

theorem occursPattern_ordered {s pattern flags : String} {v : Value}
    (h : occursPattern s pattern flags = .ok v) : v.Ordered := by
  unfold occursPattern at h
  split at h
  · cases h; trivial
  · cases h

/-- The only function that gives nodes gives the current node. -/
theorem Function.apply_ordered {c : Context} {focus : Focus} {f : Function} {args : List Value}
    {v : Value} (h : f.apply c focus args = .ok v) : v.Ordered := by
  unfold Function.apply at h
  split at h
  -- text, numbers and truth values; those of nodes come behind a check of the argument
  all_goals first
    | exact occursPattern_ordered h
    | (cases h; done)
    | (cases h; trivial)
    | (cases h; exact ordered_singleton _)
    | (obtain ⟨ns, -, h⟩ := bind_eq_ok.1 h; cases h; trivial)

/-- **Whatever nodes an expression gives are in document order**, each once. -/
theorem Expr.eval_ordered {c : Context} (hc : OrderedBindings c.bindings) :
    ∀ (e : Expr) {focus : Focus} {v : Value}, e.eval c focus = .ok v → v.Ordered
  | .or left right, _, _, h => by
    rw [eval] at h
    obtain ⟨a, -, h⟩ := bind_eq_ok.1 h
    split at h
    · cases h; trivial
    · obtain ⟨b, -, h⟩ := bind_eq_ok.1 h
      cases h; trivial
  | .and left right, _, _, h => by
    rw [eval] at h
    obtain ⟨a, -, h⟩ := bind_eq_ok.1 h
    split at h
    · obtain ⟨b, -, h⟩ := bind_eq_ok.1 h
      cases h; trivial
    · cases h; trivial
  | .compare op left right, _, _, h | .arithmetic op left right, _, _, h => by
    rw [eval] at h
    obtain ⟨a, -, h⟩ := bind_eq_ok.1 h
    obtain ⟨b, -, h⟩ := bind_eq_ok.1 h
    cases h; trivial
  | .negate operand, _, _, h => by
    rw [eval] at h
    obtain ⟨a, -, h⟩ := bind_eq_ok.1 h
    cases h; trivial
  | .union left right, _, _, h => by
    rw [eval] at h
    obtain ⟨a, -, h⟩ := bind_eq_ok.1 h
    obtain ⟨as, -, h⟩ := bind_eq_ok.1 h
    obtain ⟨b, -, h⟩ := bind_eq_ok.1 h
    obtain ⟨bs, -, h⟩ := bind_eq_ok.1 h
    cases h
    exact inOrder_ordered _
  | .path absolute steps, _, _, h => by
    rw [eval] at h
    obtain ⟨ns, hw, h⟩ := bind_eq_ok.1 h
    cases h
    exact walk_ordered (ordered_singleton _) hw
  | .filter primary predicates steps, _, _, h => by
    rw [eval] at h
    obtain ⟨p, hp, h⟩ := bind_eq_ok.1 h
    obtain ⟨ns, hns, h⟩ := bind_eq_ok.1 h
    obtain ⟨kept, hk, h⟩ := bind_eq_ok.1 h
    obtain ⟨reached, hw, h⟩ := bind_eq_ok.1 h
    cases h
    -- predicates leave the order of the nodes that they keep
    have ho : p.Ordered := eval_ordered hc primary hp
    rw [toNodes_eq_ok.1 hns] at ho
    exact walk_ordered (List.Pairwise.sublist (keepAll_sublist hk) ho) hw
  | .literal s, _, _, h => by rw [eval] at h; cases h; trivial
  | .number x, _, _, h => by rw [eval] at h; cases h; trivial
  | .variable name, _, _, h => by
    rw [eval] at h
    split at h
    · next v' hv =>
      cases h
      exact hc _ (mem_of_lookup hv)
    · cases h
  | .call f arguments, _, _, h => by
    rw [eval] at h
    obtain ⟨args, -, h⟩ := bind_eq_ok.1 h
    exact Function.apply_ordered h

/-- The nodes that a query selects. -/
theorem Query.select_eq_ok {c : Context} {q : Query} {n : Node} {ns : List Node} :
    q.select c n = .ok ns ↔ q.expr.eval c (.on n) = .ok (.nodes ns) := by
  rw [select, bind_eq_ok]
  simp only [evaluate, mapError_eq_ok]
  constructor
  · rintro ⟨v, hv, h⟩
    cases v with
    | nodes ms => cases h; exact hv
    | text | number | boolean => cases h
  · intro h
    exact ⟨_, h, rfl⟩

theorem Query.evaluate_eq_ok {c : Context} {q : Query} {n : Node} {v : Value} :
    q.evaluate c n = .ok v ↔ q.expr.eval c (.on n) = .ok v := mapError_eq_ok

/-- **The nodes that a query selects are in document order**, each once. -/
theorem Query.select_ordered {c : Context} (hc : OrderedBindings c.bindings) {q : Query} {n : Node}
    {ns : List Node} (h : q.select c n = .ok ns) : Ordered ns :=
  q.expr.eval_ordered hc (select_eq_ok.1 h)

end XmlAudit.XPath
