import XmlAudit.Proofs.Number.Position
import XmlAudit.Time.Instant

/-!
# Instants read back

* `readDigits_digits`, `readYear_renderYear`, `readFraction_renderFraction`: the parts of an instant are
  read back one by one.
* `ofLocal_zero`: universal time is its own local time.
* `parse?_renderShort`: the text of an instant that exists is read as that instant.
-/

namespace XmlAudit.Time.Instant

open Number.Decimal (EndsDigits isDigit_of_mem_toDigits takeWhile_isDigit dropWhile_isDigit)

variable {width n : Nat} {rest : List Char}

/-! ## Digits -/

theorem isDigit_of_mem_digits : ∀ c ∈ digits width n, c.isDigit := by
  intro c hc
  rcases List.mem_append.1 hc with hzero | hdigit
  · rw [List.eq_of_mem_replicate hzero]
    rfl
  · exact isDigit_of_mem_toDigits hdigit

theorem length_digits (hwidth : 0 < width) (h : n < 10 ^ width) : (digits width n).length = width := by
  have hle := (Nat.length_toDigits_le_iff (by decide) hwidth).2 h
  simp only [digits, List.length_append, List.length_replicate]
  omega

theorem digits_ne_nil : digits width n ≠ [] := by
  intro hnil
  exact Nat.toDigits_ne_nil (List.append_eq_nil_iff.1 hnil).2

/-- Zeros in front of a number do not change it. -/
theorem numberOf_digits (width n : Nat) : numberOf (digits width n) = n := by
  have hzeros : ∀ zeros : Nat, ∀ ds, numberOf (List.replicate zeros '0' ++ ds) = numberOf ds := by
    intro zeros ds
    induction zeros with
    | zero => rfl
    | succ zeros ih => rw [← ih]; rfl
  rw [digits, hzeros]
  exact Number.Decimal.ofDigits_toDigits n

theorem exists_digits (width n : Nat) : ∃ c cs, digits width n = c :: cs ∧ c.isDigit := by
  obtain ⟨c, cs, hcs⟩ := List.exists_cons_of_ne_nil (@digits_ne_nil width n)
  exact ⟨c, cs, hcs, isDigit_of_mem_digits c (hcs ▸ List.mem_cons_self)⟩

theorem readDigits_of_take {limit : Nat} {ds rest : List Char} (hne : ds ≠ [])
    (h : ((ds ++ rest).take limit).takeWhile Char.isDigit = ds) :
    readDigits limit (ds ++ rest) = some (numberOf ds, rest) := by
  have hempty : ds.isEmpty = false := by simpa using hne
  simp only [readDigits, h, hempty, Bool.false_eq_true, if_false, List.drop_left]

/-- **A number of a fixed width is read back**, whatever follows it. -/
theorem readDigits_digits (hwidth : 0 < width) (h : n < 10 ^ width) (rest : List Char) :
    readDigits width (digits width n ++ rest) = some (n, rest) := by
  have htake : ((digits width n ++ rest).take width).takeWhile Char.isDigit = digits width n := by
    rw [List.take_left' (length_digits hwidth h)]
    exact List.takeWhile_eq_self_iff.2 isDigit_of_mem_digits
  rw [readDigits_of_take digits_ne_nil htake, numberOf_digits]

/-- A number of any width is read back in front of what is no digit. -/
theorem readDigits_all (width n : Nat) (hrest : EndsDigits rest) :
    readDigits (digits width n ++ rest).length (digits width n ++ rest) = some (n, rest) := by
  have htake : ((digits width n ++ rest).take (digits width n ++ rest).length).takeWhile Char.isDigit =
      digits width n := by
    rw [List.take_length]
    exact takeWhile_isDigit isDigit_of_mem_digits hrest
  rw [readDigits_of_take digits_ne_nil htake, numberOf_digits]

/-! ## Parts of an instant -/

theorem isBlank_of_isDigit {c : Char} (h : c.isDigit) : Text.isBlank c = false := by
  have hnone : ∀ k < 10, (Text.blankRanges.any fun r => r.1 ≤ 48 + k && 48 + k ≤ r.2) = false := by
    decide
  obtain ⟨hlow, hhigh⟩ : 48 ≤ c.toNat ∧ c.toNat ≤ 57 := by
    simpa [Char.isDigit, UInt32.le_iff_toNat_le] using h
  obtain ⟨k, hk⟩ := Nat.exists_eq_add_of_le hlow
  rw [Text.isBlank, Text.inRanges, hk]
  exact hnone k (by omega)

theorem trimStart_cons {c : Char} (h : Text.isBlank c = false) (cs : List Char) :
    Text.trimStart (c :: cs) = c :: cs := List.dropWhile_cons_of_neg (by simp [h])

theorem trimStart_digits (width n : Nat) (rest : List Char) :
    Text.trimStart (digits width n ++ rest) = digits width n ++ rest := by
  obtain ⟨c, cs, hcs, hdigit⟩ := exists_digits width n
  rw [hcs, List.cons_append, trimStart_cons (isBlank_of_isDigit hdigit)]

theorem readNumber_digits (hwidth : 0 < width) (h : n < 10 ^ width) (rest : List Char) :
    readNumber width (digits width n ++ rest) = some (n, rest) := by
  rw [readNumber, trimStart_digits, readDigits_digits hwidth h]

theorem readMark_cons {c : Char} (h : Text.isBlank c = false) (cs : List Char) :
    readMark c (c :: cs) = some cs := by
  rw [readMark, trimStart_cons h, Text.dropWord, if_pos rfl, Text.dropWord]

/-! Whether a year has a sign is told by its first character. -/

theorem readYear_minus (cs : List Char) :
    readYear ('-' :: cs) = (readDigits cs.length cs).map fun r => (-(r.1 : Int), r.2) := by
  rw [readYear, trimStart_cons rfl]
  rfl

theorem readYear_plus (cs : List Char) :
    readYear ('+' :: cs) = (readDigits cs.length cs).map fun r => ((r.1 : Int), r.2) := by
  rw [readYear, trimStart_cons rfl]
  rfl

theorem readYear_digit {c : Char} (h : c.isDigit) (cs : List Char) :
    readYear (c :: cs) = (readDigits 4 (c :: cs)).map fun r => ((r.1 : Int), r.2) := by
  rw [readYear, trimStart_cons (isBlank_of_isDigit h)]
  split
  · next heq =>
    rw [(List.cons.inj heq).1] at h
    cases h
  · next heq =>
    rw [(List.cons.inj heq).1] at h
    cases h
  · rfl

/-- **A year is read back**, with or without a sign. -/
theorem readYear_renderYear (y : Int) (hrest : EndsDigits rest) :
    readYear (renderYear y ++ rest) = some (y, rest) := by
  unfold renderYear
  split_ifs with hfour hneg
  · obtain ⟨c, cs, hcs, hdigit⟩ := exists_digits 4 y.toNat
    rw [hcs, List.cons_append, readYear_digit hdigit, ← List.cons_append, ← hcs,
      readDigits_digits (by decide) (by omega), Option.map_some, Int.toNat_of_nonneg hfour.1]
  · have hvalue : -(y.natAbs : Int) = y := by omega
    rw [List.cons_append, readYear_minus, readDigits_all 4 y.natAbs hrest, Option.map_some, hvalue]
  · have hvalue : (y.natAbs : Int) = y := by omega
    rw [List.cons_append, readYear_plus, readDigits_all 4 y.natAbs hrest, Option.map_some, hvalue]

theorem readFraction_point (hwidth : width ≤ 9) (hpos : 0 < width) (h : n < 10 ^ width)
    (hrest : EndsDigits rest) : readFraction ('.' :: (digits width n ++ rest)) =
      some (n * 10 ^ (9 - width), rest) := by
  have hdigits : ∀ c ∈ digits width n, c.isDigit := isDigit_of_mem_digits
  have htake := takeWhile_isDigit hdigits hrest
  have hdrop := dropWhile_isDigit hdigits hrest
  have hlength := length_digits hpos h
  have hkept : (digits width n).take 9 = digits width n := List.take_of_length_le (by omega)
  have hempty : (digits width n).isEmpty = false := by simpa using @digits_ne_nil width n
  unfold readFraction
  simp only [htake, hdrop, hkept, hempty, numberOf_digits, hlength]
  rfl

/-- **The part of a second is read back**, in thousandths, millionths or billionths. -/
theorem readFraction_renderFraction (h : n < 1000000000) (hrest : EndsDigits rest)
    (hpoint : rest.head? ≠ some '.') : readFraction (renderFraction n ++ rest) = some (n, rest) := by
  unfold renderFraction
  -- the digits that are left out at the end are zeros
  split_ifs with hzero hmilli hmicro
  · rw [hzero, List.nil_append]
    unfold readFraction
    split
    · exact absurd rfl hpoint
    · rfl
  · have hvalue : n / 1000000 * 10 ^ (9 - 3) = n := by omega
    rw [List.cons_append, readFraction_point (by decide) (by decide) (by omega) hrest, hvalue]
  · have hvalue : n / 1000 * 10 ^ (9 - 6) = n := by omega
    rw [List.cons_append, readFraction_point (by decide) (by decide) (by omega) hrest, hvalue]
  · have hvalue : n * 10 ^ (9 - 9) = n := by omega
    rw [List.cons_append, readFraction_point (by decide) (by decide) (by omega) hrest, hvalue]

/-- **Universal time is its own local time.** -/
theorem ofLocal_zero {t : Instant} (hhour : t.hour < 24) (hminute : t.minute < 60) :
    t.ofLocal 0 = t := by
  have hlow : ¬((t.hour * 60 + t.minute : Nat) : Int) - 0 < 0 := by omega
  have hhigh : ((t.hour * 60 + t.minute : Nat) : Int) - 0 < 1440 := by omega
  have hday : (((t.hour * 60 + t.minute : Nat) : Int) - 0) % 1440 = (t.hour * 60 + t.minute : Nat) := by
    omega
  have hhours : (t.hour * 60 + t.minute) / 60 = t.hour := by omega
  have hminutes : (t.hour * 60 + t.minute) % 60 = t.minute := by omega
  unfold ofLocal
  simp only [if_neg hlow, if_pos hhigh, hday, Int.toNat_natCast]
  rw [hhours, hminutes]

/-! ## Whole instants -/

theorem lt_of_isValid {d : Day} (h : d.isValid) : d.month < 10 ^ 2 ∧ d.day < 10 ^ 2 := by
  have hmonth : ∀ y m, daysInMonth y m ≤ 31 := by
    intro y m
    unfold daysInMonth
    split
    · split <;> omega
    all_goals omega
  have := hmonth d.year d.month
  simp only [Day.isValid, Bool.and_eq_true, decide_eq_true_iff] at h
  omega

theorem readDay_render {d : Day} (h : d.isValid) (rest : List Char) :
    readDay (renderYear d.year ++ '-' :: (digits 2 d.month ++ '-' :: (digits 2 d.day ++ rest))) =
      some (d, rest) := by
  obtain ⟨hmonth, hday⟩ := lt_of_isValid h
  have hrest : EndsDigits ('-' :: (digits 2 d.month ++ '-' :: (digits 2 d.day ++ rest))) := by
    rintro c ⟨⟩
    rfl
  have hyear := readYear_renderYear d.year hrest
  unfold readDay
  rw [hyear]
  simp only [Option.bind_eq_bind, Option.bind_some, readMark_cons (c := '-') rfl,
    readNumber_digits (by decide) hmonth, readNumber_digits (by decide) hday]
  rfl

theorem readTime_render {t : Instant} (h : t.isValid) (rest : List Char) (hrest : EndsDigits rest)
    (hpoint : rest.head? ≠ some '.') :
    readTime t.date (digits 2 t.hour ++ ':' :: (digits 2 t.minute ++ ':' :: (digits 2 t.second ++
      (renderFraction t.nanosecond ++ rest)))) = some (t, rest) := by
  simp only [isValid, Bool.and_eq_true, decide_eq_true_iff] at h
  obtain ⟨⟨⟨⟨-, hhour⟩, hminute⟩, hsecond⟩, hnano⟩ := h
  have hfraction := readFraction_renderFraction hnano hrest hpoint
  unfold readTime
  rw [readNumber_digits (by decide) (by omega)]
  simp only [Option.bind_eq_bind, Option.bind_some, readMark_cons (c := ':') rfl]
  rw [readNumber_digits (by decide) (by omega)]
  simp only [Option.bind_some, readMark_cons (c := ':') rfl]
  rw [readNumber_digits (by decide) (by omega)]
  simp only [Option.bind_some, hfraction]
  rfl

/-- **The text of an instant that exists is read as that instant.** -/
theorem parse?_renderShort {t : Instant} (h : t.isValid) : parse? t.renderShort = some t := by
  have hvalid := h
  simp only [isValid, Bool.and_eq_true, decide_eq_true_iff] at hvalid
  obtain ⟨⟨⟨⟨hdate, hhour⟩, hminute⟩, -⟩, -⟩ := hvalid
  have htext : t.renderShort.toList = renderYear t.date.year ++ '-' :: (digits 2 t.date.month ++ '-' ::
      (digits 2 t.date.day ++ 'T' :: (digits 2 t.hour ++ ':' :: (digits 2 t.minute ++ ':' ::
        (digits 2 t.second ++ (renderFraction t.nanosecond ++ ['Z'])))))) := by
    simp [renderShort, render]
  have htime := readTime_render h ['Z'] (by rintro c ⟨⟩; rfl) (by decide)
  have hzone : readZone (Text.trimStart ['Z']) = some (0, []) := rfl
  unfold parse?
  rw [htext, readDay_render hdate]
  simp only [Option.bind_eq_bind, Option.bind_some, readSeparator, decide_true, Bool.true_or, if_true,
    htime, hzone, ofLocal_zero hhour hminute]
  rw [if_pos ⟨rfl, h, by decide, hdate⟩]
  rfl

end XmlAudit.Time.Instant
