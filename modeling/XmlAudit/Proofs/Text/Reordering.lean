import Mathlib
import XmlAudit.Text.Normalization

/-!
# Marks in the order of their classes

* `mergeSort_congr`: the order of marks only depends on the order of those of each class.
* `inOrder_swap`: a mark may be moved past marks of other classes.
* `inOrder_inOrder`: marks in order stay as they are.
-/

namespace XmlAudit.Text

/-! ## Sorting that keeps the order of equals -/

section

variable {α : Type} {key : α → Nat} {as bs : List α}

theorem filter_mergeSort (key : α → Nat) (as : List α) (k : Nat) :
    (as.mergeSort fun a b => key a ≤ key b).filter (key · = k) = as.filter (key · = k) := by
  have hsub : (as.filter (key · = k)).Sublist (as.mergeSort fun a b => decide (key a ≤ key b)) := by
    refine List.sublist_mergeSort ?_ ?_ ?_ List.filter_sublist
    · intro a b c hab hbc
      simp at *
      omega
    · intro a b
      simp
      omega
    · apply List.pairwise_of_forall_mem_list
      intro a ha b hb
      have hka := of_decide_eq_true (List.mem_filter.1 ha).2
      have hkb := of_decide_eq_true (List.mem_filter.1 hb).2
      simp
      omega
  have hkept := hsub.filter (key · = k)
  rw [List.filter_filter] at hkept
  simp only [Bool.and_self] at hkept
  have hlength := ((List.mergeSort_perm as fun a b => decide (key a ≤ key b)).filter (key · = k)).length_eq
  exact (hkept.eq_of_length hlength.symm).symm

theorem mem_iff_of_filter_eq (h : ∀ k, as.filter (key · = k) = bs.filter (key · = k)) (x : α) :
    x ∈ as ↔ x ∈ bs := by
  have hx := congrArg (x ∈ ·) (h (key x))
  simpa using hx

/-- Sorted lists with the same members of each key are equal. -/
theorem eq_of_filter_eq (has : as.Pairwise (key · ≤ key ·)) (hbs : bs.Pairwise (key · ≤ key ·))
    (h : ∀ k, as.filter (key · = k) = bs.filter (key · = k)) : as = bs := by
  induction as generalizing bs with
  | nil =>
    cases bs with
    | nil => rfl
    | cons b bs => exact absurd ((mem_iff_of_filter_eq h b).2 List.mem_cons_self) List.not_mem_nil
  | cons a as ih =>
    cases bs with
    | nil => exact absurd ((mem_iff_of_filter_eq h a).1 List.mem_cons_self) List.not_mem_nil
    | cons b bs =>
      obtain ⟨hleast, has'⟩ := List.pairwise_cons.1 has
      obtain ⟨hleast', hbs'⟩ := List.pairwise_cons.1 hbs
      -- Each head is the least of its list, and a member of the other one.
      have hab : key a ≤ key b := by
        rcases List.mem_cons.1 ((mem_iff_of_filter_eq h b).2 List.mem_cons_self) with rfl | hb
        · exact Nat.le_refl _
        · exact hleast b hb
      have hba : key b ≤ key a := by
        rcases List.mem_cons.1 ((mem_iff_of_filter_eq h a).1 List.mem_cons_self) with rfl | ha
        · exact Nat.le_refl _
        · exact hleast' a ha
      have hkey : key a = key b := Nat.le_antisymm hab hba
      have hfirst := h (key a)
      rw [List.filter_cons_of_pos (by simp), List.filter_cons_of_pos (by simp [hkey])] at hfirst
      obtain ⟨rfl, -⟩ := List.cons.inj hfirst
      have hrest : ∀ k, as.filter (key · = k) = bs.filter (key · = k) := by
        intro k
        have hk := h k
        by_cases hak : key a = k
        · rw [List.filter_cons_of_pos (by simpa using hak), List.filter_cons_of_pos (by simpa using hak)]
            at hk
          exact (List.cons.inj hk).2
        · rwa [List.filter_cons_of_neg (by simpa using hak), List.filter_cons_of_neg (by simpa using hak)]
            at hk
      rw [ih has' hbs' hrest]

theorem pairwise_mergeSort_key (key : α → Nat) (as : List α) :
    (as.mergeSort fun a b => key a ≤ key b).Pairwise (key · ≤ key ·) := by
  have hsorted := @List.pairwise_mergeSort _ (fun a b => decide (key a ≤ key b))
    (fun a b c hab hbc => by simp at *; omega) (fun a b => by simp; omega) as
  simpa using hsorted

/-- **The order only depends on the order of the members of each key.** -/
theorem mergeSort_congr (h : ∀ k, as.filter (key · = k) = bs.filter (key · = k)) :
    (as.mergeSort fun a b => key a ≤ key b) = bs.mergeSort fun a b => key a ≤ key b := by
  apply eq_of_filter_eq (pairwise_mergeSort_key key as) (pairwise_mergeSort_key key bs)
  intro k
  rw [filter_mergeSort, filter_mergeSort, h]

theorem mergeSort_mergeSort (key : α → Nat) (as : List α) :
    ((as.mergeSort fun a b => key a ≤ key b).mergeSort fun a b => key a ≤ key b) =
      as.mergeSort fun a b => key a ≤ key b :=
  mergeSort_congr (filter_mergeSort key as)

end

/-! ## Marks behind letters -/

variable {marks marks' ms ns rest : List Nat} {n : Nat}

theorem inOrderFrom_append (h : ∀ m ∈ ms, combiningClass m ≠ 0) (marks rest : List Nat) :
    inOrderFrom marks (ms ++ rest) = inOrderFrom (marks ++ ms) rest := by
  induction ms generalizing marks with
  | nil => rw [List.nil_append, List.append_nil]
  | cons m ms ih =>
    obtain ⟨hm, hms⟩ := List.forall_mem_cons.1 h
    rw [List.cons_append, inOrderFrom, if_neg hm, ih hms, List.append_assoc, List.singleton_append]

theorem inOrderFrom_congr
    (h : ∀ k, marks.filter (combiningClass · = k) = marks'.filter (combiningClass · = k)) :
    inOrderFrom marks ns = inOrderFrom marks' ns := by
  induction ns generalizing marks marks' with
  | nil => exact mergeSort_congr h
  | cons n ns ih =>
    rw [inOrderFrom, inOrderFrom]
    split_ifs
    · exact congrArg (· ++ n :: inOrderFrom [] ns) (mergeSort_congr h)
    · apply ih
      intro k
      rw [List.filter_append, List.filter_append, h]

/-- **A mark may be moved past marks of other classes.** -/
theorem inOrderFrom_swap (hn : combiningClass n ≠ 0)
    (hms : ∀ m ∈ ms, combiningClass m ≠ 0 ∧ combiningClass m ≠ combiningClass n) :
    inOrderFrom marks (n :: ms ++ rest) = inOrderFrom marks (ms ++ n :: rest) := by
  have hall : ∀ m ∈ ms, combiningClass m ≠ 0 := fun m hm => (hms m hm).1
  rw [inOrderFrom_append (List.forall_mem_cons.2 ⟨hn, hall⟩), inOrderFrom_append hall, inOrderFrom,
    if_neg hn]
  apply inOrderFrom_congr
  intro k
  rw [List.append_assoc, List.filter_append, List.filter_append]
  congr 1
  by_cases hk : combiningClass n = k
  · have hnone : ms.filter (combiningClass · = k) = [] := by
      rw [List.filter_eq_nil_iff]
      intro m hm
      have hne := (hms m hm).2
      rw [hk] at hne
      simpa using hne
    rw [List.filter_cons_of_pos (by simpa using hk), List.filter_append, hnone]
    simp [hk]
  · rw [List.filter_cons_of_neg (by simpa using hk), List.filter_append,
      List.filter_cons_of_neg (by simpa using hk), List.filter_nil, List.append_nil]

theorem inOrderFrom_append_congr {before after after' : List Nat}
    (h : ∀ marks, inOrderFrom marks after = inOrderFrom marks after') (marks : List Nat) :
    inOrderFrom marks (before ++ after) = inOrderFrom marks (before ++ after') := by
  induction before generalizing marks with
  | nil => exact h marks
  | cons n before ih =>
    rw [List.cons_append, List.cons_append, inOrderFrom, inOrderFrom, ih, ih]

theorem inOrder_inOrderFrom (h : ∀ m ∈ marks, combiningClass m ≠ 0) :
    inOrder (inOrderFrom marks ns) = inOrderFrom marks ns := by
  have hsorted : ∀ marks : List Nat, inOrderFrom.sorted (inOrderFrom.sorted marks) =
      inOrderFrom.sorted marks := mergeSort_mergeSort combiningClass
  have hkept : ∀ m ∈ inOrderFrom.sorted marks, combiningClass m ≠ 0 :=
    fun m hm => h m (List.mem_mergeSort.1 hm)
  induction ns generalizing marks with
  | nil =>
    have hpass := inOrderFrom_append hkept [] []
    rw [List.append_nil, List.nil_append] at hpass
    rw [inOrderFrom, inOrder, hpass, inOrderFrom, hsorted]
  | cons n ns ih =>
    rw [inOrderFrom]
    split_ifs with hn
    · have hrest := @ih [] (fun m hm => nomatch hm) (fun m hm => nomatch List.mem_mergeSort.1 hm)
      rw [inOrder] at hrest
      rw [inOrder, inOrderFrom_append hkept, List.nil_append, inOrderFrom, if_pos hn, hsorted, hrest]
    · have hmarks : ∀ m ∈ marks ++ [n], combiningClass m ≠ 0 := by
        intro m hm
        rcases List.mem_append.1 hm with hm | hm
        · exact h m hm
        · rwa [List.mem_singleton.1 hm]
      exact ih hmarks fun m hm => hmarks m (List.mem_mergeSort.1 hm)

/-- **Marks in order stay as they are.** -/
theorem inOrder_inOrder (ns : List Nat) : inOrder (inOrder ns) = inOrder ns :=
  inOrder_inOrderFrom fun _ hm => nomatch hm

theorem mem_inOrderFrom : n ∈ inOrderFrom marks ns ↔ n ∈ marks ∨ n ∈ ns := by
  induction ns generalizing marks with
  | nil => simp [inOrderFrom, inOrderFrom.sorted]
  | cons m ns ih =>
    rw [inOrderFrom]
    split_ifs
    · simp [inOrderFrom.sorted, ih]
    · rw [ih, List.mem_append, List.mem_singleton, List.mem_cons, or_assoc]

theorem mem_inOrder : n ∈ inOrder ns ↔ n ∈ ns := by
  simp [inOrder, mem_inOrderFrom]

/-- A letter keeps apart the marks before and after it. -/
theorem inOrderFrom_append_letter (hn : combiningClass n = 0) (marks ns rest : List Nat) :
    inOrderFrom marks (ns ++ n :: rest) = inOrderFrom marks ns ++ n :: inOrder rest := by
  induction ns generalizing marks with
  | nil => rw [List.nil_append, inOrderFrom, inOrderFrom, if_pos hn, inOrder]
  | cons m ns ih =>
    rw [List.cons_append, inOrderFrom, inOrderFrom]
    split_ifs
    · rw [ih, List.append_assoc, List.cons_append]
    · exact ih _

end XmlAudit.Text
