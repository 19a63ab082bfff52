import Mathlib
import XmlAudit.Text.Replace

/-!
# Words of a text, and rules that rewrite it

* `dropWord_eq_some_iff`: a text that starts with a word.
* `append_mark_inj`: what stands before the first mark and behind it.
* `splitFrom_words`: the words with a mark in front of each.
* `splitFrom_intercalate`: words with a mark between each two.
* `not_mem_of_mem_splitFrom`, `mem_of_mem_splitFrom`: the words of a text are parts of it without
  marks.
* `replaceFrom_plain`, `replaceFrom_taken`: a rule passes over characters that it does not
  recognise, and behind those that it takes.
* `replaceFrom_append`: a text can be rewritten in two halves if nothing that is taken spans them.
-/

namespace XmlAudit.Text

/-! ## Words -/

section

variable {mark : Char}

/-- A word is dropped from a text exactly if the text starts with it. -/
theorem dropWord_eq_some_iff {word cs rest : List Char} :
    dropWord word cs = some rest ↔ cs = word ++ rest := by
  induction word generalizing cs with
  | nil => simp [dropWord]
  | cons w word ih =>
    cases cs with
    | nil => simp [dropWord]
    | cons c cs =>
      rw [dropWord]
      split
      · next hw => subst hw; rw [ih]; simp
      · next hw => simp [Ne.symm hw]

theorem splitFrom_nil (mark : Char) (part : List Char) : splitFrom mark part [] = [part.reverse] := rfl

theorem splitFrom_cons (mark : Char) (part : List Char) (c : Char) (cs : List Char) :
    splitFrom mark part (c :: cs) =
      if c = mark then part.reverse :: splitFrom mark [] cs else splitFrom mark (c :: part) cs := rfl

theorem splitFrom_append {word part rest : List Char} (h : mark ∉ word) :
    splitFrom mark part (word ++ rest) = splitFrom mark (word.reverse ++ part) rest := by
  induction word generalizing part with
  | nil => rfl
  | cons c word ih =>
    rw [List.mem_cons, not_or] at h
    rw [List.cons_append, splitFrom_cons, if_neg (Ne.symm h.1), ih h.2, List.reverse_cons,
      List.append_assoc, List.singleton_append]

theorem splitFrom_of_not_mem {word : List Char} (h : mark ∉ word) : splitFrom mark [] word = [word] := by
  have hsplit := @splitFrom_append mark word [] [] h
  rwa [List.append_nil, List.append_nil, splitFrom_nil, List.reverse_reverse] at hsplit

theorem splitFrom_append_mark {word : List Char} (h : mark ∉ word) (rest : List Char) :
    splitFrom mark [] (word ++ mark :: rest) = word :: splitFrom mark [] rest := by
  rw [splitFrom_append h, splitFrom_cons, if_pos rfl, List.append_nil, List.reverse_reverse]

/-- What stands before the first mark and behind it. -/
theorem append_mark_inj {word word' rest rest' : List Char} (h : mark ∉ word) (h' : mark ∉ word')
    (heq : word ++ mark :: rest = word' ++ mark :: rest') : word = word' ∧ rest = rest' := by
  rcases List.append_eq_append_iff.1 heq with ⟨left, rfl, hleft⟩ | ⟨left, rfl, hleft⟩
  · cases left with
    | nil => exact ⟨(List.append_nil word).symm, (List.cons.inj hleft).2⟩
    | cons c left =>
      obtain ⟨rfl, -⟩ := List.cons.inj hleft
      exact absurd (List.mem_append_right word List.mem_cons_self) h'
  · cases left with
    | nil => exact ⟨List.append_nil word', (List.cons.inj hleft).2.symm⟩
    | cons c left =>
      obtain ⟨rfl, -⟩ := List.cons.inj hleft
      exact absurd (List.mem_append_right word' List.mem_cons_self) h

/-- **The words between marks.** -/
theorem splitFrom_words {words : List (List Char)} (h : ∀ w ∈ words, mark ∉ w) (part : List Char) :
    splitFrom mark part (words.flatMap (mark :: ·)) = part.reverse :: words := by
  induction words generalizing part with
  | nil => rfl
  | cons w words ih =>
    obtain ⟨hw, hwords⟩ := List.forall_mem_cons.1 h
    rw [List.flatMap_cons, List.cons_append, splitFrom_cons, if_pos rfl, splitFrom_append hw, ih hwords,
      List.append_nil, List.reverse_reverse]

theorem intercalate_cons (mark : Char) (word : List Char) (words : List (List Char)) :
    [mark].intercalate (word :: words) = word ++ words.flatMap (mark :: ·) := by
  induction words generalizing word with
  | nil => simp
  | cons w words ih =>
    rw [List.intercalate_cons_cons, ih, List.flatMap_cons, List.append_assoc]
    rfl

/-- **Words with a mark between each two** are taken apart at the marks. -/
theorem splitFrom_intercalate {words : List (List Char)} (h : ∀ w ∈ words, mark ∉ w) (hne : words ≠ []) :
    splitFrom mark [] ([mark].intercalate words) = words := by
  obtain ⟨w, rest, rfl⟩ := List.exists_cons_of_ne_nil hne
  obtain ⟨hw, hrest⟩ := List.forall_mem_cons.1 h
  rw [intercalate_cons, splitFrom_append hw, splitFrom_words hrest, List.append_nil,
    List.reverse_reverse]

theorem splitFrom_ne_nil (part cs : List Char) : splitFrom mark part cs ≠ [] := by
  induction cs generalizing part with
  | nil => exact List.cons_ne_nil _ _
  | cons c cs ih =>
    rw [splitFrom_cons]
    split_ifs
    · exact List.cons_ne_nil _ _
    · exact ih _

/-- What the words of a text are made of. -/
theorem of_mem_splitFrom {part cs w : List Char} (hpart : mark ∉ part) (h : w ∈ splitFrom mark part cs) :
    mark ∉ w ∧ ∀ c ∈ w, c ∈ part ∨ c ∈ cs := by
  induction cs generalizing part with
  | nil =>
    rw [List.mem_singleton.1 h]
    exact ⟨by simpa using hpart, fun c hc => .inl (List.mem_reverse.1 hc)⟩
  | cons d cs ih =>
    rw [splitFrom_cons] at h
    split_ifs at h with hd
    · rcases List.mem_cons.1 h with rfl | h
      · exact ⟨by simpa using hpart, fun c hc => .inl (List.mem_reverse.1 hc)⟩
      · obtain ⟨hw, hchars⟩ := ih List.not_mem_nil h
        refine ⟨hw, fun c hc => .inr (List.mem_cons_of_mem _ ?_)⟩
        exact (hchars c hc).resolve_left List.not_mem_nil
    · have hpart' : mark ∉ d :: part := by
        rw [List.mem_cons, not_or]
        exact ⟨Ne.symm hd, hpart⟩
      obtain ⟨hw, hchars⟩ := ih hpart' h
      refine ⟨hw, fun c hc => ?_⟩
      rcases hchars c hc with hc | hc
      · rcases List.mem_cons.1 hc with rfl | hc
        · exact .inr List.mem_cons_self
        · exact .inl hc
      · exact .inr (List.mem_cons_of_mem _ hc)

/-- No word of a text holds a mark. -/
theorem not_mem_of_mem_splitFrom {cs w : List Char} (h : w ∈ splitFrom mark [] cs) : mark ∉ w :=
  (of_mem_splitFrom List.not_mem_nil h).1

/-- Each word of a text is part of it. -/
theorem mem_of_mem_splitFrom {cs w : List Char} (h : w ∈ splitFrom mark [] cs) {c : Char} (hc : c ∈ w) :
    c ∈ cs :=
  ((of_mem_splitFrom List.not_mem_nil h).2 c hc).resolve_left List.not_mem_nil

end

/-! ## Rules that rewrite -/

variable {rule : ReplaceRule} {c : Char} {word rest replacement : List Char}

theorem replaceFrom_succ (rule : ReplaceRule) (skip : Nat) (c : Char) (cs : List Char) :
    replaceFrom rule (skip + 1) (c :: cs) = replaceFrom rule skip cs := rfl

theorem replaceFrom_cons_of_none (h : rule (c :: rest) = none) :
    replaceFrom rule 0 (c :: rest) = c :: replaceFrom rule 0 rest := by
  rw [replaceFrom, h]

theorem replaceFrom_cons_of_some {taken : Nat} (h : rule (c :: rest) = some (replacement, taken)) :
    replaceFrom rule 0 (c :: rest) = replacement ++ replaceFrom rule (taken - 1) rest := by
  rw [replaceFrom, h]

theorem replaceFrom_skip : replaceFrom rule word.length (word ++ rest) = replaceFrom rule 0 rest := by
  induction word with
  | nil => rfl
  | cons w word ih =>
    rw [List.length_cons, List.cons_append, replaceFrom_succ]
    exact ih

/-- A rule passes over characters with which nothing starts that it recognises. -/
theorem replaceFrom_plain (h : ∀ c ∈ word, ∀ cs, rule (c :: cs) = none) :
    replaceFrom rule 0 (word ++ rest) = word ++ replaceFrom rule 0 rest := by
  induction word with
  | nil => rfl
  | cons w word ih =>
    obtain ⟨hw, hword⟩ := List.forall_mem_cons.1 h
    rw [List.cons_append, replaceFrom_cons_of_none (hw _), ih hword, List.cons_append]

/-- Behind what a rule takes it starts anew. -/
theorem replaceFrom_taken (h : rule (c :: (word ++ rest)) = some (replacement, word.length + 1)) :
    replaceFrom rule 0 (c :: (word ++ rest)) = replacement ++ replaceFrom rule 0 rest := by
  rw [replaceFrom_cons_of_some h, Nat.add_sub_cancel, replaceFrom_skip]

/-- **A text is rewritten in two halves** if the second one makes no difference to what a rule takes
from the first one. -/
theorem replaceFrom_append {skip : Nat} (hskip : skip ≤ word.length)
    (h : ∀ cs, cs <:+ word → cs ≠ [] → rule (cs ++ rest) = rule cs ∧ ∀ r ∈ rule cs, r.2 ≤ cs.length) :
    replaceFrom rule skip (word ++ rest) = replaceFrom rule skip word ++ replaceFrom rule 0 rest := by
  induction word generalizing skip with
  | nil =>
    obtain rfl : skip = 0 := Nat.le_zero.1 hskip
    rfl
  | cons w word ih =>
    have hlater := fun cs (hcs : cs <:+ word) => h cs (hcs.trans (List.suffix_cons w word))
    cases skip with
    | succ skip => exact ih (Nat.le_of_succ_le_succ hskip) hlater
    | zero =>
      obtain ⟨hsame, hlength⟩ := h (w :: word) List.suffix_rfl (List.cons_ne_nil w word)
      rw [List.cons_append] at hsame ⊢
      cases hrule : rule (w :: word) with
      | none =>
        rw [replaceFrom_cons_of_none (hsame.trans hrule), replaceFrom_cons_of_none hrule,
          ih (Nat.zero_le _) hlater, List.cons_append]
      | some r =>
        have hle := hlength r hrule
        rw [List.length_cons] at hle
        rw [replaceFrom_cons_of_some (hsame.trans hrule), replaceFrom_cons_of_some hrule,
          ih (by omega) hlater, List.append_assoc]

/-- A rule that only leaves out brings no new characters. -/
theorem mem_of_mem_replaceFrom (h : ∀ cs, ∀ r ∈ rule cs, r.1 = []) {skip : Nat}
    (hc : c ∈ replaceFrom rule skip word) : c ∈ word := by
  induction word generalizing skip with
  | nil => cases hc
  | cons w word ih =>
    cases skip with
    | succ skip => exact List.mem_cons_of_mem w (ih hc)
    | zero =>
      cases hrule : rule (w :: word) with
      | none =>
        rw [replaceFrom_cons_of_none hrule] at hc
        exact (List.mem_cons.1 hc).elim (fun heq => heq ▸ List.mem_cons_self)
          fun hc => List.mem_cons_of_mem w (ih hc)
      | some r =>
        rw [replaceFrom_cons_of_some hrule, h _ r hrule, List.nil_append] at hc
        exact List.mem_cons_of_mem w (ih hc)

end XmlAudit.Text
