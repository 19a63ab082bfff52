import Mathlib
import XmlAudit.Files.Tree
import XmlAudit.Proofs.Outcome

/-!
# What is in a directory

* `FileTree.mem_names`: the names in a directory are those of what is right inside it.
* `FileTree.pairwise_names`: each of them is told once, and they are in order.
-/

namespace XmlAudit.Files.FileTree

variable {t : FileTree} {p : Path} {k : Place} {names : List String} {s : String}

theorem nodup_eraseDups {α : Type} [BEq α] [LawfulBEq α] (l : List α) : l.eraseDups.Nodup := by
  induction hlength : l.length using Nat.strong_induction_on generalizing l with
  | _ n ih =>
    cases l with
    | nil => exact List.nodup_nil
    | cons a l =>
      -- what is left behind the head is shorter than the list, but not its tail
      have hshort := List.length_filter_le (fun b => !b == a) l
      rw [List.length_cons] at hlength
      rw [List.eraseDups_cons, List.nodup_cons, List.mem_eraseDups]
      exact ⟨by simp, ih _ (by omega) _ rfl⟩

/-- The names of what is right inside a place, in the order of the entries. -/
def childNames (t : FileTree) (k : Place) : List String :=
  (t.entries.filterMap fun e => childName? k e.1).eraseDups.filter fun s => (t.find? (k ++ [s])).isSome

theorem mem_childNames : s ∈ t.childNames k ↔ (t.find? (k ++ [s])).isSome := by
  rw [childNames, List.mem_filter, List.mem_eraseDups, and_iff_right_iff_imp]
  intro h
  obtain ⟨e, he⟩ := Option.isSome_iff_exists.1 h
  have hentry : (k ++ [s], some e) ∈ t.entries := by
    unfold find? at he
    rw [if_neg (by simp)] at he
    exact mem_of_lookup (Option.join_eq_some_iff.1 he)
  exact List.mem_filterMap.2 ⟨_, hentry, by simp [childName?]⟩

theorem nodup_childNames (t : FileTree) (k : Place) : (t.childNames k).Nodup :=
  (nodup_eraseDups _).filter _

theorem names_eq_ok : t.names p = .ok names ↔ ∃ k, t.locate p = .ok k ∧
    t.find? k = some .directory ∧ (t.childNames k).mergeSort (fun a b => decide (a ≤ b)) = names := by
  unfold FileTree.names
  rw [bind_eq_ok]
  refine exists_congr fun k => and_congr_right fun _ => ?_
  constructor
  · intro h
    split at h
    · cases h
    · cases h
    · next hk => exact ⟨hk, Except.ok.inj h⟩
  · rintro ⟨hk, rfl⟩
    rw [hk]
    rfl

/-- **The names in a directory** are those of what is right inside it. -/
theorem mem_names (h : t.names p = .ok names) (hk : t.locate p = .ok k) :
    s ∈ names ↔ (t.find? (k ++ [s])).isSome := by
  obtain ⟨k', hk', -, rfl⟩ := names_eq_ok.1 h
  cases hk.symm.trans hk'
  rw [List.mem_mergeSort, mem_childNames]

/-- **Each name in a directory is told once**, and they are told in order. -/
theorem pairwise_names (h : t.names p = .ok names) : names.Pairwise (· < ·) := by
  obtain ⟨k, -, -, rfl⟩ := names_eq_ok.1 h
  have hordered := List.pairwise_mergeSort' (· ≤ ·) (t.childNames k)
  have honce : ((t.childNames k).mergeSort fun a b => decide (a ≤ b)).Nodup :=
    (List.mergeSort_perm _ _).nodup_iff.2 (t.nodup_childNames k)
  exact (hordered.and honce).imp fun h => lt_of_le_of_ne h.1 h.2

theorem holdsFile_iff : t.holdsFile k ↔ ∃ content, t.find? k = some (.file content) := by
  unfold holdsFile
  split
  · next content h => simp [h]
  · next h => simpa using h

end XmlAudit.Files.FileTree
