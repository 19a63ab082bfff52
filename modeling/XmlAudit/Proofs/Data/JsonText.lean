import XmlAudit.Data.JsonText
import XmlAudit.Proofs.Number.Position
import XmlAudit.Proofs.Outcome

/-!
# Data read back from JSON

* `Data.fits`: data that JSON can tell, nested no deeper than some depth.
* `readText_jsonText`, `readNumber_toDigits`: what is written of a text and of a number is read back.
* `reads`: so is what is written of data, wherever it stands; one case for each kind of data.
* `parseJson?_renderJson`: the JSON text of data that fits is read as that data.
-/

namespace XmlAudit.Data

open Number.Decimal (EndsDigits isDigit_of_mem_toDigits takeWhile_isDigit dropWhile_isDigit)

/-! ## Texts -/

theorem hexValue?_hexDigit : ∀ n < 16, hexValue? (hexDigit n) = some n := by decide

/-- The escape of a control character is read as that character. -/
theorem hexUnit?_control {n : Nat} (h : n < 32) :
    hexUnit? '0' '0' (hexDigit (n / 16)) (hexDigit (n % 16)) = some n := by
  have hzero : hexValue? '0' = some 0 := rfl
  have hhigh := hexValue?_hexDigit (n / 16) (by omega)
  have hlow := hexValue?_hexDigit (n % 16) (by omega)
  have hsum : n / 16 * 16 + n % 16 = n := Nat.div_add_mod' n 16
  simp [hexUnit?, hzero, hhigh, hlow, hsum]

/-- **A character is read back**, escaped or not. -/
theorem readUnits_jsonChar (c : Char) (acc : List Nat) (cs : List Char) :
    readUnits acc (jsonChar c ++ cs) = readUnits (c.toNat :: acc) cs := by
  unfold jsonChar
  split
  case h_8 =>
    split
    · next hcontrol =>
      simp only [List.cons_append, List.nil_append, readUnits, hexUnit?_control hcontrol]
    · next hcontrol =>
      rw [List.singleton_append, readUnits.eq_def]
      split <;> simp_all
  -- the characters that have an escape of their own
  all_goals rfl

theorem readUnits_flatMap (cs : List Char) (acc : List Nat) (rest : List Char) :
    readUnits acc (cs.flatMap jsonChar ++ '"' :: rest) =
      some (acc.reverse ++ cs.map Char.toNat, rest) := by
  induction cs generalizing acc with
  | nil => simp [readUnits]
  | cons c cs ih =>
    rw [List.flatMap_cons, List.append_assoc, readUnits_jsonChar, ih]
    simp

/-- No character is one of the units that stand in pairs. -/
theorem not_isUnit (c : Char) : isHighUnit c.toNat = false ∧ isLowUnit c.toNat = false := by
  have hvalid : c.toNat < 0xD800 ∨ 0xDFFF < c.toNat := by
    rcases c.valid with h | ⟨h, -⟩
    · exact .inl h
    · exact .inr h
  simp only [isHighUnit, isLowUnit, Bool.and_eq_false_iff, decide_eq_false_iff_not]
  omega

theorem joinUnits?_map_toNat (cs : List Char) : joinUnits? (cs.map Char.toNat) = some cs := by
  induction cs with
  | nil => rfl
  | cons c cs ih =>
    obtain ⟨hhigh, hlow⟩ := not_isUnit c
    cases cs with
    | nil => simp [joinUnits?, hhigh, hlow]
    | cons c' cs =>
      rw [List.map_cons, List.map_cons, joinUnits?, ← List.map_cons, ih]
      simp [hhigh, hlow]

/-- **A quoted text is read back**, whatever its characters are. -/
theorem readText_jsonText (s : String) (rest : List Char) :
    readText (s.toList.flatMap jsonChar ++ '"' :: rest) = some (some s, rest) := by
  simp [readText, readUnits_flatMap, joinUnits?_map_toNat]

/-! ## Numbers -/

/-- **A text that cannot be taken for more of a number in front of it.** -/
structure EndsNumber (rest : List Char) : Prop where
  digits : EndsDigits rest
  point : rest.head? ≠ some '.'
  exponent : rest.head? ≠ some 'e' ∧ rest.head? ≠ some 'E'

theorem readFraction_of_ends {rest : List Char} (h : EndsNumber rest) :
    readFraction rest = some ([], rest) := by
  unfold readFraction
  split
  · exact absurd rfl h.point
  · rfl

theorem readExponent_of_ends {rest : List Char} (h : EndsNumber rest) :
    readExponent rest = some ([], rest) := by
  cases rest with
  | nil => rfl
  | cons e rest =>
    have he : ¬(e = 'e' ∨ e = 'E') := by simpa using h.exponent
    rw [readExponent, if_neg he]

/-- **A number is read back** from its digits. -/
theorem readNumber_toDigits (negative : Bool) (n : Nat) {rest : List Char} (h : EndsNumber rest) :
    readNumber negative (Nat.toDigits 10 n ++ rest) =
      some (integerOr negative (Nat.toDigits 10 n), rest) := by
  have hdigits : ∀ c ∈ Nat.toDigits 10 n, c.isDigit := fun c hc => isDigit_of_mem_toDigits hc
  have htake := takeWhile_isDigit hdigits h.digits
  have hdrop := dropWhile_isDigit hdigits h.digits
  have hwritten : ¬((Nat.toDigits 10 n).isEmpty ∨
      (Nat.toDigits 10 n).length > 1 ∧ (Nat.toDigits 10 n).head? = some '0') := by
    rintro (hempty | ⟨hlong, hzero⟩)
    · exact Nat.toDigits_ne_nil (List.isEmpty_iff.1 hempty)
    · rcases Nat.eq_zero_or_pos n with rfl | hpos
      · exact absurd hlong (by decide)
      · exact Number.Decimal.head?_toDigits hpos hzero
  unfold readNumber
  simp only [htake, hdrop]
  rw [if_neg hwritten, readFraction_of_ends h]
  simp only [Option.bind_eq_bind, Option.bind_some, readExponent_of_ends h]
  rfl

/-! ## Data that JSON tells -/

mutual

/-- **Data that JSON tells**: whole numbers of 64 bits, and lists and tables nested at most `depth`
deep. -/
def fits (depth : Nat) : Data → Bool
  | integer n => -(2 ^ 63) ≤ n && n < 2 ^ 64
  | literal _ | overflow _ => false
  | list items => 0 < depth && allFit (depth - 1) items
  | table entries => 0 < depth && entriesFit (depth - 1) entries
  | _ => true

/-- Whether all of some items fit. -/
def allFit (depth : Nat) : List Data → Bool
  | [] => true
  | d :: ds => d.fits depth && allFit depth ds

/-- Whether the values of all entries fit. -/
def entriesFit (depth : Nat) : List (String × Data) → Bool
  | [] => true
  | (_, d) :: es => d.fits depth && entriesFit depth es

end

theorem allFit_iff {depth : Nat} {items : List Data} :
    allFit depth items ↔ ∀ d ∈ items, d.fits depth := by
  induction items with
  | nil => simp [allFit]
  | cons d ds ih => rw [allFit, Bool.and_eq_true, ih, List.forall_mem_cons]

theorem entriesFit_iff {depth : Nat} {entries : List (String × Data)} :
    entriesFit depth entries ↔ ∀ e ∈ entries, e.2.fits depth := by
  induction entries with
  | nil => simp [entriesFit]
  | cons e es ih => rw [entriesFit, Bool.and_eq_true, ih, List.forall_mem_cons]

/-! ## Blanks and ends -/

theorem skipBlanks_append {blanks cs : List Char} (hblanks : ∀ c ∈ blanks, isJsonBlank c)
    (hcs : ∀ c ∈ cs.head?, isJsonBlank c = false) : skipBlanks (blanks ++ cs) = cs := by
  rw [skipBlanks, List.dropWhile_append_of_pos hblanks]
  cases cs with
  | nil => rfl
  | cons c cs => rw [List.dropWhile_cons_of_neg (by simp [hcs c rfl])]

theorem skipBlanks_cons {c : Char} (h : isJsonBlank c = false) (cs : List Char) :
    skipBlanks (c :: cs) = c :: cs := List.dropWhile_cons_of_neg (by simp [h])

theorem isJsonBlank_of_mem_jsonBreak {k : Nat} : ∀ c ∈ jsonBreak k, isJsonBlank c := by
  intro c hc
  rcases List.mem_cons.1 hc with rfl | hc
  · rfl
  · rw [List.eq_of_mem_replicate hc]
    rfl

theorem skipBlanks_jsonBreak {c : Char} (h : isJsonBlank c = false) (k : Nat) (cs : List Char) :
    skipBlanks (jsonBreak k ++ c :: cs) = c :: cs :=
  skipBlanks_append isJsonBlank_of_mem_jsonBreak (by simpa using h)

theorem length_jsonBreak_pos (k : Nat) : 0 < (jsonBreak k).length := Nat.succ_pos _

theorem endsNumber_jsonBreak (k : Nat) (rest : List Char) : EndsNumber (jsonBreak k ++ rest) where
  digits := by rintro c ⟨⟩; rfl
  point := by rintro ⟨⟩
  exponent := by constructor <;> rintro ⟨⟩

theorem endsNumber_comma (rest : List Char) : EndsNumber (',' :: rest) where
  digits := by rintro c ⟨⟩; rfl
  point := by rintro ⟨⟩
  exponent := by constructor <;> rintro ⟨⟩

theorem endsNumber_nil : EndsNumber [] where
  digits := by rintro c ⟨⟩
  point := by rintro ⟨⟩
  exponent := by constructor <;> rintro ⟨⟩

/-! ## What data starts with -/

/-- A character with which data starts: no blank, and none that closes a list or a table. -/
structure StartsData (c : Char) : Prop where
  notBlank : isJsonBlank c = false
  notClosing : c ≠ ']' ∧ c ≠ '\x7d'

/-- A character with which data starts that is neither list nor table. -/
structure StartsScalar (c : Char) : Prop extends StartsData c where
  notOpening : c ≠ '[' ∧ c ≠ '\x7b'

theorem startsScalar_of_isDigit {c : Char} (h : c.isDigit) : StartsScalar c := by
  have hne : ∀ x : Char, x.isDigit = false → c ≠ x := by
    rintro x hx rfl
    rw [h] at hx
    cases hx
  refine ⟨⟨?_, hne _ rfl, hne _ rfl⟩, hne _ rfl, hne _ rfl⟩
  simp [isJsonBlank, hne ' ' rfl, hne '\n' rfl, hne '\t' rfl, hne '\r' rfl]

theorem startsScalar_of_mem {c : Char} (h : c ∈ ['n', 't', 'f', '"', '-']) : StartsScalar c := by
  simp only [List.mem_cons, List.not_mem_nil, or_false] at h
  rcases h with rfl | rfl | rfl | rfl | rfl <;> exact ⟨⟨by decide, by decide⟩, by decide⟩

/-! ## Numbers, words and texts as data -/

theorem readWord_append (word : String) (d : Data) (rest : List Char) :
    readWord word d (word.toList ++ rest) = some (d, rest) := by
  have hword : word.toList.isPrefixOf (word.toList ++ rest) := by simp
  rw [readWord, if_pos hword, ← String.length_toList, List.drop_left]

theorem readScalar_jsonText (s : String) (rest : List Char) :
    readScalar (jsonText s ++ rest) = some (text s, rest) := by
  have hshape : jsonText s ++ rest = '"' :: (s.toList.flatMap jsonChar ++ '"' :: rest) := by
    simp [jsonText]
  rw [hshape, readScalar, readText_jsonText]
  rfl

theorem toString_ofNat (n : Nat) : (toString (Int.ofNat n)).toList = Nat.toDigits 10 n := by
  rw [show toString (Int.ofNat n) = Nat.repr n from rfl, Nat.repr_eq_ofList_toDigits,
    String.toList_ofList]

theorem toString_negSucc (n : Nat) :
    (toString (Int.negSucc n)).toList = '-' :: Nat.toDigits 10 (n + 1) := by
  rw [show toString (Int.negSucc n) = "-" ++ Nat.repr (n + 1) from rfl, String.toList_append,
    Nat.repr_eq_ofList_toDigits, String.toList_ofList (l := Nat.toDigits 10 (n + 1))]
  rfl

theorem exists_toDigits (n : Nat) :
    ∃ c cs, Nat.toDigits 10 n = c :: cs ∧ c.isDigit := by
  obtain ⟨c, cs, hcs⟩ := List.exists_cons_of_ne_nil (@Nat.toDigits_ne_nil n 10)
  exact ⟨c, cs, hcs, isDigit_of_mem_toDigits (hcs ▸ List.mem_cons_self)⟩

theorem readScalar_toDigits (n : Nat) {rest : List Char} (h : EndsNumber rest) :
    readScalar (Nat.toDigits 10 n ++ rest) =
      some (integerOr false (Nat.toDigits 10 n), rest) := by
  rw [← readNumber_toDigits false n h]
  obtain ⟨c, cs, hcs, hdigit⟩ := exists_toDigits n
  rw [hcs, List.cons_append]
  unfold readScalar
  split
  case h_6 => rfl
  -- a digit is none of the characters with which anything else starts
  all_goals
    next heq =>
    rw [(List.cons.inj heq).1] at hdigit
    cases hdigit

theorem digitsValue_toDigits (n : Nat) : digitsValue (Nat.toDigits 10 n) = n :=
  Number.Decimal.ofDigits_toDigits n

/-- **A whole number of 64 bits is read back.** -/
theorem readScalar_integer {n : Int} (hlow : -(2 ^ 63) ≤ n) (hhigh : n < 2 ^ 64) {rest : List Char}
    (h : EndsNumber rest) : readScalar ((toString n).toList ++ rest) = some (integer n, rest) := by
  cases n with
  | ofNat n =>
    have hfits : n < UInt64.size := by
      rw [Int.ofNat_eq_natCast] at hhigh
      exact_mod_cast hhigh
    have hvalue : integerOr false (Nat.toDigits 10 n) = integer n := by
      simp [integerOr, digitsValue_toDigits, hfits]
    rw [toString_ofNat, readScalar_toDigits n h, hvalue]
    rfl
  | negSucc n =>
    have hfits : n + 1 ≤ Nat.pow 2 63 := by
      rw [Int.negSucc_eq] at hlow
      have : Nat.pow 2 63 = 2 ^ 63 := rfl
      omega
    have hvalue : integerOr true (Nat.toDigits 10 (n + 1)) = integer (Int.negSucc n) := by
      simp only [integerOr, digitsValue_toDigits, if_true]
      rw [if_pos ⟨Nat.succ_pos n, hfits⟩, Int.negSucc_eq]
      rfl
    rw [toString_negSucc, List.cons_append, readScalar, readNumber_toDigits true (n + 1) h, hvalue]

/-! ## Lists and tables -/

/-- **What is written of data is read back**, behind any blanks and in front of any text that is not
taken for more of it, given more steps than there are characters. -/
def Reads (d : Data) : Prop :=
  ∀ (k fuel : Nat) {depth : Nat} {blanks rest : List Char}, d.fits depth →
    (renderJsonAt k d).length < fuel → (∀ c ∈ blanks, isJsonBlank c) → EndsNumber rest →
    readData depth fuel (blanks ++ (renderJsonAt k d ++ rest)) = some (d, rest)

variable {k depth fuel : Nat} {blanks rest : List Char} {d : Data}

theorem readData_scalar {c : Char} {cs : List Char} (hc : StartsScalar c)
    (hblanks : ∀ c ∈ blanks, isJsonBlank c) :
    readData depth (fuel + 1) (blanks ++ c :: cs) = readScalar (c :: cs) := by
  have hskip : skipBlanks (blanks ++ c :: cs) = c :: cs :=
    skipBlanks_append hblanks (by simpa using hc.notBlank)
  rw [readData, hskip]
  split
  · next heq => exact absurd (List.cons.inj heq).1 hc.notOpening.1
  · next heq => exact absurd (List.cons.inj heq).1 hc.notOpening.2
  · rfl

section

variable (k : Nat)

@[simp] theorem renderJsonAt_null : renderJsonAt k null = "null".toList := rfl

@[simp] theorem renderJsonAt_boolean (b : Bool) :
    renderJsonAt k (boolean b) = (if b then "true" else "false").toList := rfl

@[simp] theorem renderJsonAt_integer (n : Int) : renderJsonAt k (integer n) = (toString n).toList := rfl

@[simp] theorem renderJsonAt_text (s : String) : renderJsonAt k (text s) = jsonText s := rfl

@[simp] theorem renderJsonAt_list_nil : renderJsonAt k (list []) = ['[', ']'] := rfl

@[simp] theorem renderJsonAt_list_cons (d : Data) (ds : List Data) :
    renderJsonAt k (list (d :: ds)) =
      '[' :: jsonBreak (k + 1) ++ renderJsonAt (k + 1) d ++ renderItems (k + 1) ds ++
        jsonBreak k ++ [']'] := rfl

@[simp] theorem renderJsonAt_table_nil : renderJsonAt k (table []) = ['\x7b', '\x7d'] := rfl

@[simp] theorem renderJsonAt_table_cons (e : String × Data) (es : List (String × Data)) :
    renderJsonAt k (table (e :: es)) =
      '\x7b' :: jsonBreak (k + 1) ++ jsonText e.1 ++ ':' :: ' ' :: renderJsonAt (k + 1) e.2 ++
        renderEntries (k + 1) es ++ jsonBreak k ++ ['\x7d'] := rfl

@[simp] theorem renderItems_nil : renderItems k [] = [] := rfl

@[simp] theorem renderEntries_nil : renderEntries k [] = [] := rfl

end

/-- Whether data is neither list nor table, and JSON tells it. -/
def isScalar : Data → Bool
  | null | boolean _ | integer _ | text _ => true
  | _ => false

/-- Such data starts with a character of its own. -/
theorem exists_renderJsonAt_scalar (h : d.isScalar) (k : Nat) :
    ∃ c cs, renderJsonAt k d = c :: cs ∧ StartsScalar c := by
  cases d with
  | null => exact ⟨'n', _, renderJsonAt_null k, startsScalar_of_mem (by simp)⟩
  | boolean b =>
    cases b with
    | false => exact ⟨'f', _, renderJsonAt_boolean k false, startsScalar_of_mem (by simp)⟩
    | true => exact ⟨'t', _, renderJsonAt_boolean k true, startsScalar_of_mem (by simp)⟩
  | integer n =>
    rw [renderJsonAt_integer]
    cases n with
    | ofNat n =>
      obtain ⟨c, cs, hcs, hdigit⟩ := exists_toDigits n
      exact ⟨c, cs, (toString_ofNat n).trans hcs, startsScalar_of_isDigit hdigit⟩
    | negSucc n => exact ⟨'-', _, toString_negSucc n, startsScalar_of_mem (by simp)⟩
  | text s => exact ⟨'"', _, renderJsonAt_text k s, startsScalar_of_mem (by simp)⟩
  | literal s => cases h
  | overflow s => cases h
  | list items => cases h
  | table entries => cases h

/-- So does all data. -/
theorem exists_renderJsonAt (h : d.fits depth) (k : Nat) :
    ∃ c cs, renderJsonAt k d = c :: cs ∧ StartsData c := by
  by_cases hscalar : d.isScalar
  · obtain ⟨c, cs, hcs, hc⟩ := exists_renderJsonAt_scalar hscalar k
    exact ⟨c, cs, hcs, hc.toStartsData⟩
  cases d with
  | list items =>
    have hbracket : StartsData '[' := ⟨by decide, by decide⟩
    cases items with
    | nil => exact ⟨'[', _, renderJsonAt_list_nil k, hbracket⟩
    | cons x xs => exact ⟨'[', _, renderJsonAt_list_cons k x xs, hbracket⟩
  | table entries =>
    have hbrace : StartsData '\x7b' := ⟨by decide, by decide⟩
    cases entries with
    | nil => exact ⟨'\x7b', _, renderJsonAt_table_nil k, hbrace⟩
    | cons e es => exact ⟨'\x7b', _, renderJsonAt_table_cons k e es, hbrace⟩
  | literal s => cases h
  | overflow s => cases h
  | null => exact absurd rfl hscalar
  | boolean b => exact absurd rfl hscalar
  | integer n => exact absurd rfl hscalar
  | text s => exact absurd rfl hscalar

/-- Data that is read back by itself, not being a list or a table. -/
theorem reads_scalar (hscalar : d.isScalar)
    (hread : ∀ {k depth rest}, d.fits depth → EndsNumber rest →
      readScalar (renderJsonAt k d ++ rest) = some (d, rest)) : Reads d := by
  intro k fuel depth blanks rest hfits hfuel hblanks hrest
  obtain ⟨fuel, rfl⟩ : ∃ n, fuel = n + 1 := ⟨fuel - 1, by omega⟩
  obtain ⟨c, cs, hcs, hc⟩ := exists_renderJsonAt_scalar hscalar k
  rw [← hread hfits hrest, hcs, List.cons_append]
  exact readData_scalar hc hblanks

theorem reads_null : Reads null := by
  refine reads_scalar rfl fun {k depth rest} hfits hrest => ?_
  rw [renderJsonAt_null]
  exact readWord_append "ull" null rest

theorem reads_boolean (b : Bool) : Reads (boolean b) := by
  refine reads_scalar rfl fun {k depth rest} hfits hrest => ?_
  rw [renderJsonAt_boolean]
  cases b with
  | false => exact readWord_append "alse" (boolean false) rest
  | true => exact readWord_append "rue" (boolean true) rest

theorem reads_text (s : String) : Reads (text s) := by
  refine reads_scalar rfl fun {k depth rest} hfits hrest => ?_
  rw [renderJsonAt_text]
  exact readScalar_jsonText s rest

theorem reads_integer (n : Int) : Reads (integer n) := by
  refine reads_scalar rfl fun {k depth rest} hfits hrest => ?_
  rw [fits, Bool.and_eq_true, decide_eq_true_iff, decide_eq_true_iff] at hfits
  rw [renderJsonAt_integer]
  exact readScalar_integer hfits.1 hfits.2 hrest

theorem renderItems_cons (k : Nat) (d : Data) (ds : List Data) (rest : List Char) :
    renderItems k (d :: ds) ++ rest =
      ',' :: (jsonBreak k ++ (renderJsonAt k d ++ (renderItems k ds ++ rest))) := by
  rw [renderItems]
  simp only [List.cons_append, List.append_assoc]

/-- **The items of a list are read back** up to its bracket; by induction on those after the first. -/
theorem readItems_render {ds : List Data} {j : Nat} (hreads : ∀ x ∈ d :: ds, Reads x)
    (hfits : ∀ x ∈ d :: ds, x.fits depth)
    (hfuel : (renderJsonAt k d).length + (renderItems k ds).length + 1 < fuel)
    (hblanks : ∀ c ∈ blanks, isJsonBlank c) (rest : List Char) :
    readItems depth fuel (blanks ++ (renderJsonAt k d ++
      (renderItems k ds ++ (jsonBreak j ++ ']' :: rest)))) = some (d :: ds, rest) := by
  induction ds generalizing d fuel blanks with
  | nil =>
    obtain ⟨fuel, rfl⟩ : ∃ n, fuel = n + 1 := ⟨fuel - 1, by omega⟩
    have hread := hreads d List.mem_cons_self k fuel (hfits d List.mem_cons_self)
      (by omega) hblanks (endsNumber_jsonBreak j (']' :: rest))
    rw [renderItems_nil, List.nil_append, readItems, hread]
    simp only [skipBlanks_jsonBreak (c := ']') rfl]
  | cons d' ds ih =>
    have hlength : (renderItems k (d' :: ds)).length =
        1 + (jsonBreak k).length + (renderJsonAt k d').length + (renderItems k ds).length := by
      have := congrArg List.length (renderItems_cons k d' ds [])
      simp only [List.append_nil, List.length_cons, List.length_append] at this
      omega
    have hbreak := length_jsonBreak_pos k
    obtain ⟨fuel, rfl⟩ : ∃ n, fuel = n + 1 := ⟨fuel - 1, by omega⟩
    have hread := hreads d List.mem_cons_self k fuel (hfits d List.mem_cons_self)
      (by omega) hblanks (endsNumber_comma
        (jsonBreak k ++ (renderJsonAt k d' ++ (renderItems k ds ++ (jsonBreak j ++ ']' :: rest)))))
    -- the step that is spent on an item is paid for by its comma
    have hnext := ih (fun x hx => hreads x (List.mem_cons_of_mem d hx))
      (fun x hx => hfits x (List.mem_cons_of_mem d hx)) (show _ < fuel by omega)
      (isJsonBlank_of_mem_jsonBreak (k := k))
    rw [renderItems_cons, readItems, hread]
    simp only [skipBlanks_cons (c := ',') rfl, hnext]
    rfl

theorem reads_list {items : List Data} (h : ∀ d ∈ items, Reads d) : Reads (list items) := by
  intro k fuel depth blanks rest hfits hfuel hblanks hrest
  rw [fits, Bool.and_eq_true, decide_eq_true_iff, allFit_iff] at hfits
  obtain ⟨hdepth, hfits⟩ := hfits
  obtain ⟨fuel, rfl⟩ : ∃ n, fuel = n + 1 := ⟨fuel - 1, by omega⟩
  -- an empty list is written without a break between its brackets
  cases items with
  | nil =>
    rw [renderJsonAt_list_nil, readData, skipBlanks_append hblanks (by rintro c ⟨⟩; rfl)]
    simp only [List.cons_append, if_neg (Nat.ne_of_gt hdepth), skipBlanks_cons (c := ']') rfl,
      List.nil_append]
  | cons d ds =>
    rw [renderJsonAt_list_cons] at hfuel ⊢
    simp only [List.cons_append, List.length_cons, List.length_append, List.append_assoc,
      List.nil_append] at hfuel ⊢
    rw [readData, skipBlanks_append hblanks (by rintro c ⟨⟩; rfl)]
    obtain ⟨c, cs, hcs, hc⟩ := exists_renderJsonAt (hfits d List.mem_cons_self) (k + 1)
    have hskip : skipBlanks (jsonBreak (k + 1) ++ (renderJsonAt (k + 1) d ++
        (renderItems (k + 1) ds ++ (jsonBreak k ++ ']' :: rest)))) = renderJsonAt (k + 1) d ++
        (renderItems (k + 1) ds ++ (jsonBreak k ++ ']' :: rest)) := by
      rw [hcs]
      exact skipBlanks_jsonBreak hc.notBlank _ _
    have hitems := readItems_render (k := k + 1) (j := k) h hfits (show _ < fuel by omega)
      (List.forall_mem_nil _) rest
    rw [List.nil_append] at hitems
    simp only [if_neg (Nat.ne_of_gt hdepth), hskip]
    split
    · -- no item starts like the end of an empty list
      next heq =>
      rw [hcs] at heq
      exact absurd (List.cons.inj heq).1 hc.notClosing.1
    · rw [hitems]
      rfl

theorem renderEntries_cons (k : Nat) (e : String × Data) (es : List (String × Data))
    (rest : List Char) : renderEntries k (e :: es) ++ rest =
      ',' :: (jsonBreak k ++ (jsonText e.1 ++ ':' :: ' ' :: (renderJsonAt k e.2 ++
        (renderEntries k es ++ rest)))) := by
  rw [renderEntries]
  simp only [List.cons_append, List.append_assoc]

/-- **A key is read back**, with the colon behind it. -/
theorem readKey_jsonText (key : String) {blanks : List Char} (hblanks : ∀ c ∈ blanks, isJsonBlank c)
    (rest : List Char) : readKey (blanks ++ (jsonText key ++ ':' :: rest)) = some (some key, rest) := by
  have hshape : jsonText key ++ ':' :: rest = '"' :: (key.toList.flatMap jsonChar ++ '"' :: ':' :: rest) := by
    simp [jsonText]
  rw [hshape, readKey, skipBlanks_append hblanks (by rintro c ⟨⟩; rfl)]
  simp only [readText_jsonText, skipBlanks_cons (c := ':') rfl]

/-- **The entries of a table are read back** up to its brace; by induction on those after the first. -/
theorem readEntries_render {e : String × Data} {es : List (String × Data)} {j : Nat}
    (hreads : ∀ x ∈ e :: es, Reads x.2) (hfits : ∀ x ∈ e :: es, x.2.fits depth)
    (hfuel : (renderJsonAt k e.2).length + (renderEntries k es).length + 1 < fuel)
    (hblanks : ∀ c ∈ blanks, isJsonBlank c) (rest : List Char) :
    readEntries depth fuel (blanks ++ (jsonText e.1 ++ ':' :: ' ' :: (renderJsonAt k e.2 ++
      (renderEntries k es ++ (jsonBreak j ++ '\x7d' :: rest))))) =
        some ((e :: es).map fun e => (some e.1, e.2), rest) := by
  have hspace : ∀ c ∈ [' '], isJsonBlank c := by simp [isJsonBlank]
  induction es generalizing e fuel blanks with
  | nil =>
    obtain ⟨fuel, rfl⟩ : ∃ n, fuel = n + 1 := ⟨fuel - 1, by omega⟩
    have hread := hreads e List.mem_cons_self k fuel (hfits e List.mem_cons_self)
      (by omega) hspace (endsNumber_jsonBreak j ('\x7d' :: rest))
    rw [List.singleton_append] at hread
    rw [renderEntries_nil, List.nil_append, readEntries, readKey_jsonText e.1 hblanks]
    simp only [hread, skipBlanks_jsonBreak (c := '\x7d') rfl]
    rfl
  | cons e' es ih =>
    -- the fuel left behind this entry is enough for all others
    have hlength : (renderEntries k (e' :: es)).length = 1 + (jsonBreak k).length +
        (jsonText e'.1).length + 2 + (renderJsonAt k e'.2).length + (renderEntries k es).length := by
      have := congrArg List.length (renderEntries_cons k e' es [])
      simp only [List.append_nil, List.length_cons, List.length_append] at this
      omega
    obtain ⟨fuel, rfl⟩ : ∃ n, fuel = n + 1 := ⟨fuel - 1, by omega⟩
    have hread := hreads e List.mem_cons_self k fuel (hfits e List.mem_cons_self)
      (by omega) hspace (endsNumber_comma (jsonBreak k ++ (jsonText e'.1 ++ ':' :: ' ' ::
        (renderJsonAt k e'.2 ++ (renderEntries k es ++ (jsonBreak j ++ '\x7d' :: rest))))))
    have hnext := ih (fun x hx => hreads x (List.mem_cons_of_mem e hx))
      (fun x hx => hfits x (List.mem_cons_of_mem e hx)) (show _ < fuel by omega)
      (isJsonBlank_of_mem_jsonBreak (k := k))
    rw [List.singleton_append] at hread
    rw [renderEntries_cons, readEntries, readKey_jsonText e.1 hblanks]
    simp only [hread, skipBlanks_cons (c := ',') rfl, hnext]
    rfl

theorem tableOf_map (entries : List (String × Data)) :
    tableOf (entries.map fun e => (some e.1, e.2)) = table entries := by
  unfold tableOf
  rw [mapM_map_eq_some (f := fun e : Option String × Data => e.1.map (·, e.2)) fun e _ => rfl]

theorem reads_table {entries : List (String × Data)} (h : ∀ e ∈ entries, Reads e.2) :
    Reads (table entries) := by
  intro k fuel depth blanks rest hfits hfuel hblanks hrest
  rw [fits, Bool.and_eq_true, decide_eq_true_iff, entriesFit_iff] at hfits
  obtain ⟨hdepth, hfits⟩ := hfits
  obtain ⟨fuel, rfl⟩ : ∃ n, fuel = n + 1 := ⟨fuel - 1, by omega⟩
  -- an empty table, like an empty list, is written without a break
  cases entries with
  | nil =>
    rw [renderJsonAt_table_nil, readData, skipBlanks_append hblanks (by rintro c ⟨⟩; rfl)]
    simp only [List.cons_append, if_neg (Nat.ne_of_gt hdepth), skipBlanks_cons (c := '\x7d') rfl,
      List.nil_append]
  | cons e es =>
    rw [renderJsonAt_table_cons] at hfuel ⊢
    simp only [List.cons_append, List.length_cons, List.length_append, List.append_assoc,
      List.nil_append] at hfuel ⊢
    rw [readData, skipBlanks_append hblanks (by rintro c ⟨⟩; rfl)]
    have hskip : skipBlanks (jsonBreak (k + 1) ++ (jsonText e.1 ++ ':' :: ' ' ::
        (renderJsonAt (k + 1) e.2 ++ (renderEntries (k + 1) es ++ (jsonBreak k ++ '\x7d' :: rest))))) =
        jsonText e.1 ++ ':' :: ' ' :: (renderJsonAt (k + 1) e.2 ++
          (renderEntries (k + 1) es ++ (jsonBreak k ++ '\x7d' :: rest))) :=
      skipBlanks_append isJsonBlank_of_mem_jsonBreak (by rintro c ⟨⟩; rfl)
    have hentries := readEntries_render (k := k + 1) (j := k) h hfits (show _ < fuel by omega)
      (List.forall_mem_nil _) rest
    rw [List.nil_append] at hentries
    simp only [if_neg (Nat.ne_of_gt hdepth), hskip]
    split
    · -- a key starts with a quote, unlike the end of an empty table
      next heq => cases (List.cons.inj heq).1
    · rw [hentries, Option.map_some, tableOf_map]

mutual

/-- **All data is read back**: one case for each kind of it. -/
theorem reads : ∀ d : Data, Reads d
  | null => reads_null
  | boolean b => reads_boolean b
  | integer n => reads_integer n
  | literal _ => fun _ _ => fun hfits => nomatch hfits
  | overflow _ => fun _ _ => fun hfits => nomatch hfits
  | text s => reads_text s
  | list items => reads_list (readsItems items)
  | table entries => reads_table (readsEntries entries)

theorem readsItems : ∀ items : List Data, ∀ d ∈ items, Reads d
  | [] => List.forall_mem_nil _
  | d :: ds => List.forall_mem_cons.2 ⟨reads d, readsItems ds⟩

theorem readsEntries : ∀ entries : List (String × Data), ∀ e ∈ entries, Reads e.2
  | [] => List.forall_mem_nil _
  | (_, d) :: es => List.forall_mem_cons.2 ⟨reads d, readsEntries es⟩

end

/-- **The JSON text of data is read as that data.** -/
theorem parseJson?_renderJson {d : Data} (h : d.fits depthLimit) : parseJson? d.renderJson = some d := by
  have hread := reads d 0 ((renderJsonAt 0 d).length + 1) h (Nat.lt_succ_self _)
    (List.forall_mem_nil _) endsNumber_nil
  rw [List.nil_append, List.append_nil] at hread
  unfold parseJson? renderJson
  rw [String.toList_ofList, hread]
  rfl

end XmlAudit.Data
