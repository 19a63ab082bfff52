import XmlAudit.Proofs.Outcome
import XmlAudit.Proofs.Text.Words
import XmlAudit.Url.Name

/-!
# Names are read back label by label

* `ReadsBack`: a label that is read from its written form.
* `readsBack_of_isAscii`: a label in ASCII without the mark is one.
* `toAscii?_written`: a written name is cut into its labels.
* `toAscii?_intercalate`: a name of labels that are read back is its own written form.
* `toAscii?_eq_some`: what the labels of a name are.
-/

namespace XmlAudit.Url.Name

open Text (splitFrom)

variable {isForbidden : Char → Bool} {label : List Char} {labels : List (List Char)}

/-- A character of a written name: in ASCII, small and allowed, and not the mark between labels. -/
structure IsWrittenChar (isForbidden : Char → Bool) (c : Char) : Prop where
  ascii : c.toNat < 128
  small : c.toLower = c
  undotted : c ≠ '.'
  allowed : isForbidden c = false

/-- **A label that is read from its written form**. -/
structure ReadsBack (isForbidden : Char → Bool) (label : List Char) : Prop where
  read : label? (written label) = some label
  chars : ∀ c ∈ written label, IsWrittenChar isForbidden c

/-- A label in ASCII is read as it stands, unless it starts with the mark. -/
theorem readsBack_of_isAscii (hascii : isAscii label) (hmark : Text.dropWord mark label = none)
    (hsmall : ∀ c ∈ label, c.toLower = c) (hdot : '.' ∉ label)
    (hallowed : ∀ c ∈ label, isForbidden c = false) : ReadsBack isForbidden label := by
  have hwritten : written label = label := by rw [written, if_pos hascii]
  have hread : label? (written label) = some label := by rw [hwritten, label?, hmark]
  refine ⟨hread, ?_⟩
  rw [hwritten]
  intro c hc
  refine ⟨of_decide_eq_true (List.all_eq_true.1 hascii c hc), hsmall c hc, ?_, hallowed c hc⟩
  rintro rfl
  exact hdot hc

theorem mem_intercalate_dots {words : List (List Char)} {c : Char} (h : c ∈ ['.'].intercalate words) :
    c = '.' ∨ ∃ w ∈ words, c ∈ w := by
  cases words with
  | nil => cases h
  | cons w words =>
    rw [Text.intercalate_cons, List.mem_append] at h
    rcases h with h | h
    · exact .inr ⟨w, List.mem_cons_self, h⟩
    · obtain ⟨v, hv, h⟩ := List.mem_flatMap.1 h
      rcases List.mem_cons.1 h with rfl | h
      · exact .inl rfl
      · exact .inr ⟨v, List.mem_cons_of_mem _ hv, h⟩

/-- What holds of the dot and of the characters of written labels holds of those of their name. -/
theorem of_mem_written {p : Char → Prop} (hdot : p '.') (h : ∀ l ∈ labels, ∀ c ∈ written l, p c) :
    ∀ c ∈ ['.'].intercalate (labels.map written), p c := by
  intro c hc
  rcases mem_intercalate_dots hc with rfl | ⟨w, hw, hc⟩
  · exact hdot
  · obtain ⟨l, hl, rfl⟩ := List.mem_map.1 hw
    exact h l hl c hc

theorem not_contains_of_lt {s : Text.CharSet} {n : Nat} (h : s.ranges.all fun r => n ≤ r.1) {c : Char}
    (hc : c.toNat < n) : s.contains c = false := by
  rw [Text.CharSet.contains, Text.CharSet.has, List.any_eq_false]
  intro r hr
  have hstart := of_decide_eq_true (List.all_eq_true.1 h r hr)
  simp
  omega

/-- No character of ASCII is written from right to left. -/
theorem haveClearDirections_of_isAscii (h : ∀ l ∈ labels, isAscii l) : haveClearDirections labels := by
  have hchar : ∀ c : Char, c.toNat < 128 →
      [Direction.rightToLeft, .arabicNumber].contains (.of c) = false := by
    intro c hc
    have hletters : rightToLeftLetters.contains c = false := not_contains_of_lt (by decide) hc
    have hnumbers : arabicNumbers.contains c = false := not_contains_of_lt (by decide) hc
    rw [Direction.of, hletters, hnumbers]
    simp only [Bool.false_eq_true, if_false]
    split_ifs <;> decide
  have hnone : labels.any hasRightToLeft = false := by
    rw [List.any_eq_false]
    intro l hl
    rw [hasRightToLeft, Bool.not_eq_true, List.any_eq_false]
    intro c hc
    rw [hchar c (of_decide_eq_true (List.all_eq_true.1 (h l hl) c hc))]
    decide
  rw [haveClearDirections, hnone]
  rfl

theorem splitFrom_written (h : ∀ l ∈ labels, ∀ c ∈ written l, IsWrittenChar isForbidden c)
    (hne : labels ≠ []) :
    splitFrom '.' [] (['.'].intercalate (labels.map written)) = labels.map written := by
  apply Text.splitFrom_intercalate
  · rw [List.forall_mem_map]
    exact fun l hl hdot => (h l hl _ hdot).undotted rfl
  · simpa using hne

/-- **A written name is cut into its labels**, and these are read one by one. -/
theorem toAscii?_written (hne : labels ≠ [])
    (h : ∀ l ∈ labels, ∀ c ∈ written l, IsWrittenChar isForbidden c) (hdot : isForbidden '.' = false) :
    toAscii? isForbidden (['.'].intercalate (labels.map written)) =
      ((labels.map written).mapM label?).bind fun read =>
        if !read.all isValidLabel || !haveClearDirections read then none
        else some (['.'].intercalate (read.map written)) := by
  set name := ['.'].intercalate (labels.map written) with hname
  have hascii : isAscii name := List.all_eq_true.2
    (of_mem_written (by decide) fun l hl c hc => decide_eq_true (h l hl c hc).ascii)
  have hsmall : name.map Char.toLower = name :=
    (List.map_congr_left (of_mem_written (by decide) fun l hl c hc => (h l hl c hc).small)).trans
      (List.map_id _)
  have hallowed : name.any isForbidden = false := by
    rw [List.any_eq_false]
    intro c hc
    rw [of_mem_written hdot (fun l hl c hc => (h l hl c hc).allowed) c hc]
    decide
  rw [toAscii?, plain?, if_pos hascii, hsmall]
  dsimp only [Option.bind_eq_bind, Option.bind_some]
  rw [splitFrom_written h hne, hallowed]
  rfl

/-- **A name of labels that are read back is its own written form.** -/
theorem toAscii?_intercalate (hne : labels ≠ []) (h : ∀ l ∈ labels, ReadsBack isForbidden l)
    (hdot : isForbidden '.' = false) (hvalid : labels.all isValidLabel)
    (hdirections : haveClearDirections labels) :
    toAscii? isForbidden (['.'].intercalate (labels.map written)) =
      some (['.'].intercalate (labels.map written)) := by
  rw [toAscii?_written hne (fun l hl => (h l hl).chars) hdot,
    mapM_map_eq_some fun l hl => (h l hl).read, Option.bind_some, hvalid, hdirections]
  rfl

/-- What the labels of a name are, of which there is at least one. -/
theorem toAscii?_eq_some {name result : List Char} (h : toAscii? isForbidden name = some result) :
    ∃ plain labels, plain? name = some plain ∧ (splitFrom '.' [] plain).mapM label? = some labels ∧
      plain.any isForbidden = false ∧ labels.all isValidLabel ∧ haveClearDirections labels ∧
      result = ['.'].intercalate (labels.map written) := by
  simp only [toAscii?, Option.bind_eq_bind, Option.bind_eq_some_iff] at h
  obtain ⟨plain, hplain, labels, hlabels, h⟩ := h
  split_ifs at h with hbad
  cases h
  simp only [Bool.or_eq_true, not_or, Bool.not_eq_true, Bool.not_eq_true'] at hbad
  exact ⟨plain, labels, hplain, hlabels, hbad.1.1, by simpa using hbad.1.2, by simpa using hbad.2, rfl⟩

end XmlAudit.Url.Name
