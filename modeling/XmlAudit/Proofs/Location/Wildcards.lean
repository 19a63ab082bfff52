import XmlAudit.Proofs.Location.Rewriting
import XmlAudit.Proofs.Text.Words

/-!
# Places in any namespace

* `Place.inAnyNamespace`: a place whose unprefixed names are looked for in any namespace.
* `wildcardPath?_chars`: the second path expression that is tried is that of this place.
-/

namespace XmlAudit.Location

open Text (splitFrom splitFrom_words)
open Xml (QName)
open XPath (IndexedPath Ending IsName IsQName NameTest isName_iff not_mem_signs stepWord testOf
  render_testOf toList_render)

/-! ## Words -/

/-- Words with a slash before each of them. -/
theorem intercalate_words (word : List Char) (words : List (List Char)) :
    "/".intercalate ((word :: words).map String.ofList) =
      String.ofList (word ++ words.flatMap ('/' :: ·)) := by
  induction words generalizing word with
  | nil => simp
  | cons w words ih =>
    have hslash : "/" = String.ofList ['/'] := rfl
    rw [List.map_cons, List.map_cons, String.intercalate_cons_cons, ← List.map_cons, ih,
      List.flatMap_cons]
    rw [hslash, ← String.ofList_append, ← String.ofList_append, List.append_assoc]
    rfl

/-- The words of a path between its slashes. -/
def pathWords (p : IndexedPath) : List (List Char) := p.steps.map stepWord ++ p.ending.words

theorem chars_eq_flatMap (p : IndexedPath) : p.chars = (pathWords p).flatMap ('/' :: ·) := by
  rw [pathWords, List.flatMap_append, List.flatMap_map]
  rfl

/-! ## Steps -/

/-- The step by which an element is looked for in any namespace, if it has no prefix. -/
def anyNamespaceStep (s : QName × Nat) : NameTest × Nat :=
  (if s.1.qualifier.isNone then .anywhere s.1.localPart else testOf s.1, s.2)

/-- **A place in any namespace**: unprefixed names are looked for everywhere, the others are not. -/
def Place.inAnyNamespace (p : Place) : IndexedPath := ⟨p.steps.map anyNamespaceStep, p.ending⟩

theorem Place.Legible.inAnyNamespace {p : Place} (h : p.Legible) : p.inAnyNamespace.Legible := by
  refine ⟨fun s hs => ?_, h.2⟩
  obtain ⟨t, ht, rfl⟩ := List.mem_map.1 hs
  have hname := h.1 t ht
  rw [anyNamespaceStep]
  simp only
  split
  · exact hname.1
  · exact hname

/-- A word as it is looked for in any namespace. -/
def wildcardWord (word : List Char) : List Char :=
  if namesUnprefixed word then '*' :: ':' :: word else word

theorem slash_not_mem_stepWord {s : QName × Nat} (hs : IsQName s.1) :
    '/' ∉ stepWord (nameStep s) := by
  rw [stepWord, nameStep, render_testOf]
  intro hmem
  simp only [List.mem_append, List.mem_cons, List.not_mem_nil, or_false] at hmem
  rcases hmem with hmem | hmem | hmem | hmem
  · exact (not_mem_render hs hmem).2 rfl
  · exact absurd hmem (by decide)
  · exact absurd (Nat.isDigit_of_mem_toDigits (by decide) (Nat.le_refl 10) hmem) (by decide)
  · exact absurd hmem (by decide)

theorem namesUnprefixed_step {s : QName × Nat} (hs : IsQName s.1) :
    namesUnprefixed (stepWord (nameStep s)) = s.1.qualifier.isNone := by
  obtain ⟨⟨q, l⟩, k⟩ := s
  have hword : stepWord (nameStep (⟨q, l⟩, k)) =
      (q.elim [] fun q => q.toList ++ [':']) ++ l.toList ++ '[' :: (Nat.toDigits 10 k ++ [']']) := by
    rw [stepWord, nameStep, render_testOf, toList_render]
  rw [namesUnprefixed, hword]
  cases q with
  | some q => simp
  | none =>
    -- a name has none of the signs by which other words are told from it
    obtain ⟨c, tail, hl, hc, -⟩ := isName_iff.1 hs.1
    have hlocal : l.toList = c :: tail := hl
    have hat : c ≠ '@' := by
      rintro rfl
      exact not_mem_signs hc (by decide)
    have hcolon : ':' ∉ l.toList := hs.1.not_mem (by decide)
    have hparen : '(' ∉ l.toList := hs.1.not_mem (by decide)
    have hbracket : '[' ∉ l.toList := hs.1.not_mem (by decide)
    have hdigits : ':' ∉ Nat.toDigits 10 k := fun hd =>
      absurd (Nat.isDigit_of_mem_toDigits (by decide) (Nat.le_refl 10) hd) (by decide)
    have hname : (l.toList ++ '[' :: (Nat.toDigits 10 k ++ [']'])).takeWhile (· ≠ '[') = l.toList := by
      rw [List.takeWhile_append_of_pos, List.takeWhile_cons_of_neg (by simp), List.append_nil]
      intro d hd
      rw [decide_eq_true_eq]
      rintro rfl
      exact hbracket hd
    have hkind : testsKind (l.toList ++ '[' :: (Nat.toDigits 10 k ++ [']'])) = false := by
      rw [testsKind, hname]
      simpa using hparen
    rw [hlocal, List.mem_cons, not_or] at hcolon
    simp only [Option.elim, List.nil_append, hkind]
    simp [hlocal, hat, hcolon, hdigits]

theorem namesUnprefixed_ending {ending : Ending} {word : List Char} (hword : word ∈ ending.words) :
    namesUnprefixed word = false := by
  obtain ⟨n, rfl, rfl⟩ | ⟨rfl, rfl⟩ := Ending.mem_words.1 hword
  · simp [namesUnprefixed]
  · decide

theorem wildcardWord_step {s : QName × Nat} (hs : IsQName s.1) :
    wildcardWord (stepWord (nameStep s)) = stepWord (anyNamespaceStep s) := by
  rw [wildcardWord, namesUnprefixed_step hs, anyNamespaceStep]
  obtain ⟨⟨q, l⟩, k⟩ := s
  cases q with
  | none => simp [stepWord, nameStep, testOf, NameTest.render]
  | some q => rfl

/-- **The second path expression that is tried**: none, if there is no unprefixed name. -/
theorem wildcardPath?_chars {p : Place} (h : p.Legible) :
    wildcardPath? (String.ofList p.chars) = if p.steps.any (·.1.qualifier.isNone) then
      some (String.ofList p.inAnyNamespace.chars) else none := by
  obtain ⟨hsteps, hending⟩ := h
  -- no word has a slash in it, so the text is cut into the words that it was made of
  have hslash : ∀ w ∈ pathWords p.path, '/' ∉ w := by
    intro w hw
    rcases List.mem_append.1 hw with hw | hw
    · rw [Place.path, List.map_map] at hw
      obtain ⟨s, hs, rfl⟩ := List.mem_map.1 hw
      exact slash_not_mem_stepWord (hsteps s hs)
    · exact fun hmem => (not_mem_words hending hw hmem).2 rfl
  have hsplit : splitFrom '/' [] (String.ofList p.chars).toList = [] :: pathWords p.path := by
    rw [String.toList_ofList, Place.chars, chars_eq_flatMap, splitFrom_words hslash]
    rfl
  have hwords : (pathWords p.path).map wildcardWord = pathWords p.inAnyNamespace := by
    rw [pathWords, pathWords, List.map_append, Place.path, Place.inAnyNamespace, List.map_map,
      List.map_map, List.map_map]
    congr 1
    · exact List.map_congr_left fun s hs => wildcardWord_step (hsteps s hs)
    · refine (List.map_congr_left fun w hw => ?_).trans (List.map_id _)
      rw [wildcardWord, namesUnprefixed_ending hw]
      rfl
  have hany : ([] :: pathWords p.path).any namesUnprefixed =
      p.steps.any (·.1.qualifier.isNone) := by
    have hnone : p.ending.words.any namesUnprefixed = false := by
      rw [List.any_eq_false]
      exact fun w hw => Bool.eq_false_iff.1 (namesUnprefixed_ending hw)
    have hempty : namesUnprefixed [] = false := rfl
    rw [List.any_cons, hempty, Bool.false_or, pathWords, List.any_append, Place.path, hnone,
      Bool.or_false, List.map_map, List.any_map]
    rw [Bool.eq_iff_iff, List.any_eq_true, List.any_eq_true]
    refine exists_congr fun s => and_congr_right fun hs => ?_
    rw [← namesUnprefixed_step (hsteps s hs)]
    rfl
  have hjoin : "/".intercalate (([] :: pathWords p.path).map fun word =>
      String.ofList (wildcardWord word)) = String.ofList p.inAnyNamespace.chars := by
    have hwildcards : ([] :: pathWords p.path).map (fun word => String.ofList (wildcardWord word)) =
        ([] :: pathWords p.inAnyNamespace).map String.ofList := by
      rw [List.map_cons, List.map_cons, ← hwords, List.map_map]
      rfl
    rw [hwildcards, intercalate_words, List.nil_append, chars_eq_flatMap]
  rw [wildcardPath?]
  simp only [hsplit, hany]
  rw [← hjoin]
  rfl

end XmlAudit.Location
