import XmlAudit.Proofs.Xml.Scope

/-!
# Kinship of nodes

Which nodes contain a node, and which stand before and behind it.

* `Sound.mem_ancestors`: the ancestors of a node are the nodes inside which it is.
* `Sound.mem_following`, `Sound.mem_preceding`: the nodes behind a node less those inside it, and the
  nodes before it less those around it.
* `mem_behind`, `mem_ahead`: the members of a sorted list behind and before one of them.
-/

namespace XmlAudit.Xml.Document

open Relation (TransGen ReflTransGen)

variable {d : Document} {id m p : Nat}

/-! ## Ancestors -/

theorem ancestors_eq_nil (hp : d.parent? id = none) : d.ancestors id = [] := by
  rw [ancestors]
  cases id with
  | zero => rfl
  | succ id => rw [ancestorsWithin, hp]

theorem Sound.lt_of_transGen (h : d.Sound) (hm : TransGen d.IsChild m id) : m < id := by
  induction hm with
  | single hc => exact (h.child_bounds hc).1
  | tail _ hc ih =>
    have hlt := (h.child_bounds hc).1
    lia

/-- **The ancestors of a node are the nodes inside which it is.** -/
theorem Sound.mem_ancestors (h : d.Sound) : m ∈ d.ancestors id ↔ TransGen d.IsChild m id := by
  -- a node is inside its parent, and inside what the parent is inside of
  induction id using Nat.strongRecOn with
  | _ id ih =>
    rw [TransGen.tail'_iff]
    cases hp : d.parent? id with
    | none =>
      rw [ancestors_eq_nil hp]
      constructor
      · intro hm
        cases hm
      · rintro ⟨q, -, hq⟩
        have hparent := h.child_iff.1 hq
        rw [hp] at hparent
        cases hparent
    | some p =>
      rw [h.ancestors_eq hp, List.mem_cons, ih p (h.parent_lt hp)]
      constructor
      · rintro (rfl | hm)
        · exact ⟨m, .refl, h.child_iff.2 hp⟩
        · exact ⟨p, hm.to_reflTransGen, h.child_iff.2 hp⟩
      · rintro ⟨q, hmq, hq⟩
        have hparent := h.child_iff.1 hq
        rw [hp] at hparent
        cases hparent
        rcases Relation.reflTransGen_iff_eq_or_transGen.1 hmq with hpm | hm
        · exact .inl hpm.symm
        · exact .inr hm

/-- Ancestors come from the inside to the outside, with falling numbers. -/
theorem Sound.ancestors_sorted (h : d.Sound) : (d.ancestors id).Pairwise fun a b : Nat => b < a := by
  induction id using Nat.strongRecOn with
  | _ id ih =>
    cases hp : d.parent? id with
    | none =>
      rw [ancestors_eq_nil hp]
      exact .nil
    | some p =>
      rw [h.ancestors_eq hp, List.pairwise_cons]
      refine ⟨?_, ih p (h.parent_lt hp)⟩
      intro a ha
      exact h.lt_of_transGen (h.mem_ancestors.1 ha)

/-! ## Before and behind -/

theorem Sound.le_last (h : d.Sound) (hid : id < d.size) : id ≤ d.last id := by
  have hle := (h.tiles id hid).le
  lia

/-- **The nodes behind a node** that are not inside it. -/
theorem Sound.mem_following (h : d.Sound) (hid : id < d.size) :
    m ∈ d.following id ↔ m < d.size ∧ id < m ∧ ¬ TransGen d.IsChild id m := by
  have hlast := h.le_last hid
  rw [h.transGen_child_iff hid]
  simp only [following, idsBetween, List.mem_range'_1]
  lia

/-- **The nodes before a node** that are not around it. -/
theorem Sound.mem_preceding (h : d.Sound) (hid : id < d.size) :
    m ∈ d.preceding id ↔ m < id ∧ ¬ TransGen d.IsChild m id := by
  have hmem : m ∈ d.preceding id ↔ (1 ≤ m ∧ m < id) ∧ ¬ TransGen d.IsChild m id := by
    rw [preceding, List.mem_filter, ← h.mem_ancestors]
    simp only [idsBetween, List.mem_range'_1, Bool.not_eq_true', List.contains_eq_mem,
      decide_eq_false_iff_not]
    lia
  rw [hmem]
  constructor
  · rintro ⟨⟨-, hlt⟩, hout⟩
    exact ⟨hlt, hout⟩
  · rintro ⟨hlt, hout⟩
    refine ⟨⟨?_, hlt⟩, hout⟩
    -- the document node is around every other one
    by_contra hzero
    have hm : m = Document.root := by
      rw [Document.root]
      lia
    have hroot : Document.root < d.size := by
      rw [← hm]
      lia
    have hsize := h.size_eq
    refine hout (hm ▸ (h.transGen_child_iff hroot).2 ⟨?_, ?_⟩)
    · rw [← hm]
      exact hlt
    · lia

/-! ## Siblings -/

section

variable {cs : List Nat} {c : Nat}

/-- A sorted list falls into what is less than one of its members, that member, and what is greater.
-/
theorem exists_split (hs : cs.Pairwise (· < ·)) (hc : c ∈ cs) :
    ∃ before after, cs = before ++ c :: after ∧ (∀ m ∈ before, m < c) ∧ ∀ m ∈ after, c < m := by
  obtain ⟨before, after, rfl⟩ := List.append_of_mem hc
  obtain ⟨-, hafter, hbefore⟩ := List.pairwise_append.1 hs
  refine ⟨before, after, rfl, ?_, (List.pairwise_cons.1 hafter).1⟩
  intro m hm
  exact hbefore m hm c List.mem_cons_self

theorem mem_behind (hs : cs.Pairwise (· < ·)) (hc : c ∈ cs) {m : Nat} :
    m ∈ (cs.dropWhile (· ≠ c)).drop 1 ↔ m ∈ cs ∧ c < m := by
  obtain ⟨before, after, rfl, hbefore, hafter⟩ := exists_split hs hc
  have hskip : ∀ a ∈ before, decide (a ≠ c) = true := by
    intro a ha
    have hlt := hbefore a ha
    simp only [decide_eq_true_eq]
    lia
  have hdrop : ((before ++ c :: after).dropWhile (· ≠ c)).drop 1 = after := by
    rw [List.dropWhile_append_of_pos hskip, List.dropWhile_cons_of_neg (by simp)]
    rfl
  rw [hdrop, List.mem_append, List.mem_cons]
  constructor
  · intro hm
    exact ⟨.inr (.inr hm), hafter m hm⟩
  · rintro ⟨hm | rfl | hm, hlt⟩
    · have hlt' := hbefore m hm
      lia
    · lia
    · exact hm

theorem mem_ahead (hs : cs.Pairwise (· < ·)) (hc : c ∈ cs) {m : Nat} :
    m ∈ cs.takeWhile (· ≠ c) ↔ m ∈ cs ∧ m < c := by
  obtain ⟨before, after, rfl, hbefore, hafter⟩ := exists_split hs hc
  have hkeep : ∀ a ∈ before, decide (a ≠ c) = true := by
    intro a ha
    have hlt := hbefore a ha
    simp only [decide_eq_true_eq]
    lia
  have htake : (before ++ c :: after).takeWhile (· ≠ c) = before := by
    rw [List.takeWhile_append_of_pos hkeep, List.takeWhile_cons_of_neg (by simp), List.append_nil]
  rw [htake, List.mem_append, List.mem_cons]
  constructor
  · intro hm
    exact ⟨.inl hm, hbefore m hm⟩
  · rintro ⟨hm | rfl | hm, hlt⟩
    · exact hm
    · lia
    · have hlt' := hafter m hm
      lia

end

end XmlAudit.Xml.Document
