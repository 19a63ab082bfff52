import XmlAudit.Proofs.Url.Name.Labels
import XmlAudit.Proofs.Url.Name.Mapping
import XmlAudit.Proofs.Url.Punycode

/-!
# Written names are read back

* `IsShort`: a written name in which no label beyond ASCII is longer than what is read.
* `readsBack_of_label?`: the labels of a name are read back.
* `toAscii?_toAscii?`: the written form of a name is its own written form, if it is short.
* `toAscii?_eq_none`: otherwise it is not read.
-/

namespace XmlAudit.Url.Name

open Text (splitFrom)
open Punycode (digitOf)

variable {isForbidden : Char → Bool} {name plain result w label : List Char} {labels : List (List Char)}

/-- **A written name in which no label beyond ASCII is longer than what is read.** -/
def IsShort (name : List Char) : Prop :=
  ∀ part ∈ splitFrom '.' [] name, ∀ rest, Text.dropWord mark part = some rest →
    rest.length ≤ writtenLimit

/-! ## Names in normal form -/

/-- The characters that a name has once each is replaced by what it stands for. -/
theorem of_mem_plain (h : plain? name = some plain) (hname : isAscii name = false) :
    (∀ c ∈ plain, isKeptChar c.toNat) ∧ ∀ w ∈ splitFrom '.' [] plain, Text.normalize w = w := by
  rw [plain?, hname, if_neg (by decide)] at h
  simp only [Option.bind_eq_bind, Option.bind_eq_some_iff, Option.pure_def, Option.some.injEq] at h
  obtain ⟨images, himages, rfl⟩ := h
  constructor
  · intro c hc
    refine isClosed_isKeptChar.of_mem_normalize (fun d hd => ?_) hc
    obtain ⟨n, hn, rfl⟩ := List.mem_map.1 hd
    obtain ⟨ns, hns, hn⟩ := List.mem_flatten.1 hn
    obtain ⟨d, -, hd⟩ := exists_of_mem_mapM himages ns hns
    rw [Char.toNat_ofNat]
    split_ifs
    · exact isKeptChar_of_mapped? hd hn
    · exact tables_apart.2.2.2.2.2.1
  · intro w hw
    rw [Text.splitFrom_normalize] at hw
    obtain ⟨v, -, rfl⟩ := List.mem_map.1 hw
    exact Text.normalize_normalize v

/-- The ASCII characters of a name in normal form are small. -/
theorem toLower_of_mem_plain (h : plain? name = some plain) {c : Char} (hc : c ∈ plain)
    (hascii : c.toNat < 128) : c.toLower = c := by
  cases hname : isAscii name with
  | true =>
    rw [plain?, if_pos hname, Option.some.injEq] at h
    rw [← h] at hc
    obtain ⟨d, -, rfl⟩ := List.mem_map.1 hc
    exact Char.toLower_toLower_eq_toLower d
  | false => exact toLower_of_isKeptChar ((of_mem_plain h hname).1 c hc) hascii

theorem isAscii_plain (h : plain? name = some plain) (hname : isAscii name) : isAscii plain := by
  rw [plain?, if_pos hname, Option.some.injEq] at h
  rw [← h]
  apply List.all_eq_true.2
  intro c hc
  obtain ⟨d, hd, rfl⟩ := List.mem_map.1 hc
  have hall : (List.range 128).all fun n => decide ((Char.ofNat n).toLower.toNat < 128) := by decide
  have hd' := List.all_eq_true.1 hall d.toNat
    (List.mem_range.2 (of_decide_eq_true (List.all_eq_true.1 hname d hd)))
  rwa [Char.ofNat_toNat] at hd'

/-! ## Labels -/

/-- **What the label of a part of a name is.** Beyond ASCII, it is in normal form, and its characters
stand for themselves. -/
structure IsLabelOf (part label : List Char) : Prop where
  basic : ∀ c ∈ label, c.toNat < 128 → c ∈ part
  ascii : isAscii label → label = part ∧ Text.dropWord mark part = none
  plain : isAscii label = false → label.all isPlainChar ∧ Text.normalize label = label

theorem isLabelOf_of_label? (hplain : plain? name = some plain) {part : List Char}
    (hpart : part ∈ splitFrom '.' [] plain) (h : label? part = some label) : IsLabelOf part label := by
  unfold label? at h
  split at h
  · next rest hrest =>
    -- The label was written behind the mark.
    unfold decoded? at h
    split_ifs at h with hbad
    simp only [Option.bind_eq_bind, Option.bind_eq_some_iff] at h
    obtain ⟨decoded, hdecode, h⟩ := h
    split_ifs at h with hgood
    cases h
    simp only [Bool.or_eq_true, Bool.not_eq_true', List.isEmpty_iff, decide_eq_true_eq, not_or] at hbad
    obtain ⟨⟨⟨-, hne⟩, hlast⟩, -⟩ := hbad
    obtain ⟨hchars, c, hc, hbeyond⟩ := Punycode.of_decode?_eq_some hdecode hne hlast
    have hword := Text.dropWord_eq_some_iff.1 hrest
    refine ⟨fun d hd hascii => ?_, fun hascii => ?_, fun _ => by simpa using hgood⟩
    · rw [hword]
      exact List.mem_append_right _ ((hchars d hd).resolve_right (by omega))
    · have hlow := of_decide_eq_true (List.all_eq_true.1 hascii c hc)
      omega
  · next hmark =>
    cases h
    refine ⟨fun c hc _ => hc, fun _ => ⟨rfl, hmark⟩, fun hbeyond => ?_⟩
    have hname : isAscii name = false := by
      by_contra hname
      rw [Bool.not_eq_false] at hname
      have hall := isAscii_plain hplain hname
      have hascii : isAscii label := List.all_eq_true.2 fun c hc =>
        List.all_eq_true.1 hall c (Text.mem_of_mem_splitFrom hpart hc)
      rw [hascii] at hbeyond
      cases hbeyond
    obtain ⟨hkept, hnormal⟩ := of_mem_plain hplain hname
    refine ⟨List.all_eq_true.2 fun c hc => ?_, hnormal label hpart⟩
    exact decide_eq_true (mapped?_of_isKeptChar (hkept c (Text.mem_of_mem_splitFrom hpart hc)))

/-- **A label beyond ASCII is read back** if its written form is short enough. -/
theorem decoded?_encode (hlength : label.length ≤ labelLimit) (hbeyond : isAscii label = false)
    (hplain : label.all isPlainChar) (hnormal : Text.normalize label = label)
    (hshort : (Punycode.encode label).length ≤ writtenLimit) :
    decoded? (Punycode.encode label) = some label := by
  have hbeyond' : ¬∀ c ∈ label, c.toNat < 128 := by
    intro hall
    have hascii : isAscii label := List.all_eq_true.2 fun c hc => decide_eq_true (hall c hc)
    rw [hascii] at hbeyond
    cases hbeyond
  obtain ⟨hne, hlast⟩ := Punycode.getLast?_encode hlength hbeyond'
  have hascii : isAscii (Punycode.encode label) :=
    List.all_eq_true.2 fun c hc => decide_eq_true (Punycode.toNat_lt_of_mem_encode hc)
  have hempty : (Punycode.encode label).isEmpty = false := by simpa using hne
  rw [decoded?, hascii, hempty, if_neg (by simp [hlast, hshort]), Punycode.decode?_encode hlength]
  dsimp only [bind, Option.bind]
  rw [hplain, if_pos (by simpa using hnormal)]

/-- The characters that written forms add to those of a name. -/
structure AllowsDigits (isForbidden : Char → Bool) : Prop where
  digits : (List.range 36).all fun n => !isForbidden (digitOf n)
  hyphen : isForbidden '-' = false
  dot : isForbidden '.' = false

theorem AllowsDigits.isWrittenChar (h : AllowsDigits isForbidden) {n : Nat} (hn : n < 36) :
    IsWrittenChar isForbidden (digitOf n) := by
  have hall : (List.range 36).all fun n => decide ((digitOf n).toNat < 128) &&
      (digitOf n).toLower == digitOf n && digitOf n != '.' := by decide
  have hfacts := List.all_eq_true.1 hall n (List.mem_range.2 hn)
  have hfree := List.all_eq_true.1 h.digits n (List.mem_range.2 hn)
  simp only [Bool.and_eq_true, decide_eq_true_eq, beq_iff_eq, bne_iff_ne] at hfacts
  exact ⟨hfacts.1.1, hfacts.1.2, hfacts.2, by simpa using hfree⟩

/-- **What the written form of a label is made of.** -/
theorem isWrittenChar_of_mem_written (hplain : plain? name = some plain) {part : List Char}
    (hpart : part ∈ splitFrom '.' [] plain) (h : IsLabelOf part label)
    (hallowed : ∀ c ∈ plain, isForbidden c = false) (hdigits : AllowsDigits isForbidden) :
    ∀ c ∈ written label, IsWrittenChar isForbidden c := by
  -- ASCII characters of a label stand in the plain name; the others are written in digits
  have hbasic : ∀ c ∈ label, c.toNat < 128 → IsWrittenChar isForbidden c := by
    intro c hc hascii
    have hmem := h.basic c hc hascii
    have hin := Text.mem_of_mem_splitFrom hpart hmem
    refine ⟨hascii, toLower_of_mem_plain hplain hin hascii, ?_, hallowed c hin⟩
    rintro rfl
    exact Text.not_mem_of_mem_splitFrom hpart hmem
  have hhyphen : IsWrittenChar isForbidden '-' := ⟨by decide, by decide, by decide, hdigits.hyphen⟩
  intro c hc
  unfold written at hc
  split_ifs at hc with hascii
  · exact hbasic c hc (of_decide_eq_true (List.all_eq_true.1 hascii c hc))
  · rcases List.mem_append.1 hc with hc | hc
    · have hmark : mark = [digitOf 23, digitOf 13, '-', '-'] := by decide
      rw [hmark] at hc
      simp only [List.mem_cons, List.not_mem_nil, or_false, or_self] at hc
      rcases hc with rfl | rfl | rfl
      · exact hdigits.isWrittenChar (by decide)
      · exact hdigits.isWrittenChar (by decide)
      · exact hhyphen
    · rcases Punycode.of_mem_encode hc with hc | rfl | hc
      · obtain ⟨hmem, hlow⟩ := List.mem_filter.1 hc
        exact hbasic c hmem (of_decide_eq_true hlow)
      · exact hhyphen
      · obtain ⟨n, hn, rfl⟩ := Punycode.mem_digitsOf hc
        exact hdigits.isWrittenChar hn

/-- **The labels of a name are read back.** -/
theorem readsBack_of_isLabelOf {part : List Char} (h : IsLabelOf part label)
    (hvalid : isValidLabel label) (hchars : ∀ c ∈ written label, IsWrittenChar isForbidden c)
    (hshort : ∀ rest, Text.dropWord mark (written label) = some rest → rest.length ≤ writtenLimit) :
    ReadsBack isForbidden label := by
  refine ⟨?_, hchars⟩
  cases hascii : isAscii label with
  | true =>
    obtain ⟨hsame, hmark⟩ := h.ascii hascii
    rw [written, if_pos hascii, label?, hsame, hmark]
  | false =>
    obtain ⟨hplain, hnormal⟩ := h.plain hascii
    have hlength : label.length ≤ labelLimit := by
      rw [isValidLabel, hascii, Bool.false_or, Bool.and_eq_true, Bool.and_eq_true] at hvalid
      exact of_decide_eq_true hvalid.2
    have hrest : Text.dropWord mark (written label) = some (Punycode.encode label) := by
      rw [written, hascii, if_neg (by decide), Text.dropWord_eq_some_iff]
    rw [label?, hrest]
    exact decoded?_encode hlength hascii hplain hnormal (hshort _ hrest)

theorem ne_nil_of_mapM {α β : Type} {f : α → Option β} {as : List α} {bs : List β}
    (h : as.mapM f = some bs) (hne : as ≠ []) : bs ≠ [] := by
  obtain ⟨a, rest, rfl⟩ := List.exists_cons_of_ne_nil hne
  simp only [List.mapM_cons, Option.bind_eq_bind, Option.bind_eq_some_iff, Option.pure_def,
    Option.some.injEq] at h
  obtain ⟨b, -, bs, -, rfl⟩ := h
  exact List.cons_ne_nil _ _

/-- **What a written name is made of.** -/
theorem exists_labels (h : toAscii? isForbidden name = some result) (hdigits : AllowsDigits isForbidden) :
    ∃ labels, labels ≠ [] ∧ labels.all isValidLabel ∧ haveClearDirections labels ∧
      (∀ l ∈ labels, (∃ part, IsLabelOf part l) ∧ ∀ c ∈ written l, IsWrittenChar isForbidden c) ∧
      result = ['.'].intercalate (labels.map written) := by
  obtain ⟨plain, labels, hplain, hlabels, hfree, hvalid, hdirections, hresult⟩ := toAscii?_eq_some h
  have hallowed : ∀ c ∈ plain, isForbidden c = false := by
    intro c hc
    simpa using List.any_eq_false.1 hfree c hc
  refine ⟨labels, ne_nil_of_mapM hlabels (Text.splitFrom_ne_nil _ _), hvalid, hdirections,
    fun l hl => ?_, hresult⟩
  obtain ⟨part, hpart, hread⟩ := exists_of_mem_mapM hlabels l hl
  have hlabel := isLabelOf_of_label? hplain hpart hread
  exact ⟨⟨part, hlabel⟩, isWrittenChar_of_mem_written hplain hpart hlabel hallowed hdigits⟩

/-- No character of a written name is one that names must not have. -/
theorem allowed_of_mem_toAscii? (h : toAscii? isForbidden name = some result)
    (hdigits : AllowsDigits isForbidden) : ∀ c ∈ result, isForbidden c = false := by
  obtain ⟨labels, -, -, -, hlabels, rfl⟩ := exists_labels h hdigits
  exact of_mem_written hdigits.dot fun l hl c hc => ((hlabels l hl).2 c hc).allowed

/-- **The written form of a name is its own written form**, if it is short enough to be read. -/
theorem toAscii?_toAscii? (h : toAscii? isForbidden name = some result)
    (hdigits : AllowsDigits isForbidden) (hshort : IsShort result) :
    toAscii? isForbidden result = some result := by
  obtain ⟨labels, hne, hvalid, hdirections, hlabels, rfl⟩ := exists_labels h hdigits
  rw [IsShort, splitFrom_written (fun l hl => (hlabels l hl).2) hne] at hshort
  apply toAscii?_intercalate hne _ hdigits.dot hvalid hdirections
  intro l hl
  obtain ⟨⟨part, hlabel⟩, hchars⟩ := hlabels l hl
  exact readsBack_of_isLabelOf hlabel (List.all_eq_true.1 hvalid l hl) hchars
    (hshort _ (List.mem_map_of_mem hl))

/-- **A written form that is too long is not read.** -/
theorem toAscii?_eq_none (h : toAscii? isForbidden name = some result)
    (hdigits : AllowsDigits isForbidden) (hlong : ¬IsShort result) : toAscii? isForbidden result = none := by
  obtain ⟨labels, hne, -, -, hlabels, rfl⟩ := exists_labels h hdigits
  have hchars := fun l hl => (hlabels l hl).2
  simp only [IsShort, splitFrom_written hchars hne, not_forall] at hlong
  obtain ⟨part, hpart, rest, hrest, hlimit⟩ := hlong
  have hread : label? part = none := by
    rw [label?, hrest]
    dsimp only
    rw [decoded?, if_pos (by simp [Nat.not_le.1 hlimit])]
  rw [toAscii?_written hne hchars hdigits.dot, mapM_eq_none hpart hread, Option.bind_none]

end XmlAudit.Url.Name
