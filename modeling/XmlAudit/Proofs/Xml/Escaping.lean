import XmlAudit.Proofs.Xml.Opening
import XmlAudit.Xml.Printer

/-!
# Reading back what is escaped

* `expand_escape`: the references in an escaped text stand for the characters of the text.
* `attributesFrom_attributeText`: the attributes of a written start tag are those that it was written
  with.
* `spells_plain`: a written start tag spells the element without namespace of that name and those
  attributes.
-/

namespace XmlAudit.Xml

open Text (byteLength isXmlBlank)

/-! ## Texts -/

/-- One escaped character is read as that character. -/
theorem expandFrom_escapeChar (size position : Nat) (c : Char) (cs : List Char) :
    ∃ next, expandFrom [] size position none (escapeChar c ++ cs) = do
      let rest ← expandFrom [] size next none cs
      return c :: rest := by
  unfold escapeChar
  split
  all_goals try exact ⟨_, rfl⟩
  next hamp _ _ =>
    refine ⟨position + c.utf8Size, ?_⟩
    rw [List.singleton_append, expandFrom, if_neg]
    exact hamp

/-- **The references in an escaped text stand for the characters of the text.** -/
theorem expand_escape (s : String) : expand [] (escape s) = .ok s.toList := by
  rw [expand, escape]
  generalize byteLength _ = size
  generalize 0 = position
  induction s.toList generalizing position with
  | nil => rfl
  | cons c cs ih =>
    obtain ⟨next, hstep⟩ := expandFrom_escapeChar size position c (cs.flatMap escapeChar)
    rw [List.flatMap_cons, hstep, ih]
    rfl

/-- What could be markup does not stand in an escaped text. -/
theorem notMem_escape (s : String) : '<' ∉ escape s ∧ '>' ∉ escape s ∧ '"' ∉ escape s := by
  have hchar (d : Char) : '<' ∉ escapeChar d ∧ '>' ∉ escapeChar d ∧ '"' ∉ escapeChar d := by
    unfold escapeChar
    split
    all_goals try decide
    simp only [List.mem_singleton, eq_comm]
    exact ⟨‹_›, ‹_›, ‹_›⟩
  simp only [escape, List.mem_flatMap, not_exists, not_and]
  exact ⟨fun d _ => (hchar d).1, fun d _ => (hchar d).2.1, fun d _ => (hchar d).2.2⟩

theorem escape_eq_nil_iff {s : String} : escape s = [] ↔ s.toList = [] := by
  have hchar (d : Char) : escapeChar d ≠ [] := by
    unfold escapeChar
    split <;> simp
  rw [escape, List.flatMap_eq_nil_iff]
  refine ⟨fun h => ?_, fun h => by simp [h]⟩
  cases hs : s.toList with
  | nil => rfl
  | cons d ds => exact absurd (h d (hs ▸ List.mem_cons_self)) (hchar d)

/-! ## Names -/

/-- A name of letters only. -/
def IsWord (s : String) : Prop := s.toList ≠ [] ∧ s.toList.all Char.isAlpha

instance (s : String) : Decidable (IsWord s) := inferInstanceAs (Decidable (_ ∧ _))

variable {s : String} {c : Char}

theorem IsWord.notMem (h : IsWord s) (hc : c.isAlpha = false) : c ∉ s.toList := by
  intro hmem
  rw [List.all_eq_true.1 h.2 c hmem] at hc
  cases hc

theorem isXmlBlank_of_isAlpha (h : c.isAlpha) : isXmlBlank c = false := by
  by_contra hblank
  simp only [isXmlBlank, Bool.not_eq_false, Bool.or_eq_true, beq_iff_eq] at hblank
  rcases hblank with ((rfl | rfl) | rfl) | rfl <;> revert h <;> decide

theorem IsWord.not_blank (h : IsWord s) (hc : c ∈ s.toList) : isXmlBlank c = false :=
  isXmlBlank_of_isAlpha (List.all_eq_true.1 h.2 c hc)

theorem IsWord.isKeyChar (h : IsWord s) (hc : c ∈ s.toList) : isKeyChar c = true := by
  have hne : c ≠ '=' := fun heq => h.notMem (by decide) (heq ▸ hc)
  simp [Xml.isKeyChar, hne, h.not_blank hc]

/-- A word has no qualifier. -/
theorem IsWord.ofChars (h : IsWord s) : QName.ofChars s.toList = ⟨none, s⟩ := by
  have hcolon : s.toList.dropWhile (· ≠ ':') = [] := by
    rw [List.dropWhile_eq_nil_iff]
    intro c hc
    simpa using fun heq : c = ':' => h.notMem (by decide) (heq ▸ hc)
  rw [QName.ofChars, hcolon, String.ofList_toList]

/-- A word declares a namespace only if it is `xmlns`. -/
theorem IsWord.declaredQualifier? (h : IsWord s) (hx : s ≠ "xmlns") :
    declaredQualifier? s.toList = none := by
  cases hq : Xml.declaredQualifier? s.toList with
  | none => rfl
  | some q =>
    rcases declaredQualifier?_eq_some_iff.1 hq with ⟨-, heq⟩ | ⟨p, -, heq⟩
    · exact absurd (String.toList_injective heq) hx
    · refine absurd ?_ (h.notMem (show ':'.isAlpha = false by decide))
      rw [heq]
      simp

/-! ## Start tags -/

/-- The attributes of a start tag as they are written. -/
def attributeText (attributes : List (String × String)) : List Char :=
  attributes.flatMap fun a => ' ' :: a.1.toList ++ '=' :: '"' :: escape a.2 ++ ['"']

/-- Attributes that can be read back: their names are words, differ, and declare nothing. -/
structure PlainAttributes (attributes : List (String × String)) : Prop where
  word : ∀ a ∈ attributes, IsWord a.1
  declaresNothing : ∀ a ∈ attributes, a.1 ≠ "xmlns"
  nodup : (attributes.map (·.1)).Nodup

theorem takeWhile_append_cons {p : Char → Bool} {cs rest : List Char} (h : ∀ c ∈ cs, p c = true)
    {d : Char} (hd : p d = false) : (cs ++ d :: rest).takeWhile p = cs := by
  rw [List.takeWhile_append_of_pos h, List.takeWhile_cons, hd]
  simp

theorem dropWhile_append_cons {p : Char → Bool} {cs rest : List Char} (h : ∀ c ∈ cs, p c = true)
    {d : Char} (hd : p d = false) : (cs ++ d :: rest).dropWhile p = d :: rest := by
  rw [List.dropWhile_append_of_pos h, List.dropWhile_cons, hd]
  simp

/-- One written attribute is read, and the rest behind it. -/
theorem attributesFrom_cons {seen : List (List Char × Nat)} {position : Nat} {a : String × String}
    {cs : List Char} (hword : IsWord a.1) (hseen : seen.lookup a.1.toList = none) :
    ∃ start next, attributesFrom seen position (attributeText [a] ++ cs) =
      .ok ⟨a.1.toList, escape a.2⟩ :: attributesFrom (seen ++ [(a.1.toList, start)]) next cs := by
  obtain ⟨k, ks, hkey⟩ := List.exists_cons_of_ne_nil hword.1
  have htext : attributeText [a] ++ cs =
      ' ' :: k :: (ks ++ '=' :: '"' :: (escape a.2 ++ '"' :: cs)) := by
    simp [attributeText, hkey]
  have hchar : ∀ c ∈ ks, isKeyChar c = true := fun c hc =>
    hword.isKeyChar (hkey ▸ List.mem_cons_of_mem k hc)
  have hclose : ∀ c ∈ escape a.2, decide (c ≠ '"') = true := fun c hc =>
    decide_eq_true fun heq => (notMem_escape a.2).2.2 (heq ▸ hc)
  -- the reader skips the blank, takes the key up to its sign and the value up to its quote
  have hstart : (' ' :: k :: (ks ++ '=' :: '"' :: (escape a.2 ++ '"' :: cs))).dropWhile isXmlBlank =
      k :: (ks ++ '=' :: '"' :: (escape a.2 ++ '"' :: cs)) := by
    rw [List.dropWhile_cons_of_pos (by decide), List.dropWhile_cons_of_neg]
    simp [hword.not_blank (hkey ▸ List.mem_cons_self)]
  have hbehind : ((ks ++ '=' :: '"' :: (escape a.2 ++ '"' :: cs)).dropWhile isKeyChar).dropWhile
      isXmlBlank = '=' :: '"' :: (escape a.2 ++ '"' :: cs) := by
    rw [dropWhile_append_cons hchar (by decide), List.dropWhile_cons_of_neg (by decide)]
  rw [htext, attributesFrom, hkey]
  split
  · next h => rw [hstart] at h; cases h
  · next first behind h =>
    rw [hstart] at h
    obtain ⟨rfl, rfl⟩ := List.cons.inj h
    rw [takeWhile_append_cons hchar (by decide), ← hkey]
    simp only
    split
    · next assigned hequals =>
      rw [hbehind, afterEquals?, if_pos rfl] at hequals
      obtain rfl := Option.some.inj hequals
      rw [hseen]
      simp only
      split
      · next h => cases h
      · next quote text h =>
        rw [List.dropWhile_cons_of_neg (by decide)] at h
        obtain ⟨rfl, rfl⟩ := List.cons.inj h
        rw [if_pos (.inl rfl)]
        split
        · next h => rw [dropWhile_append_cons hclose (by simp)] at h; cases h
        · next rest h =>
          rw [dropWhile_append_cons hclose (by simp)] at h
          obtain ⟨-, rfl⟩ := List.cons.inj h
          rw [takeWhile_append_cons hclose (by simp)]
          exact ⟨_, _, rfl⟩
    · next h => rw [hbehind] at h; cases h

/-- **The attributes of a written start tag** are those that it was written with. -/
theorem attributesFrom_attributeText {attributes : List (String × String)}
    (hword : ∀ a ∈ attributes, IsWord a.1) (hnodup : (attributes.map (·.1)).Nodup) :
    ∀ {seen : List (List Char × Nat)} {position : Nat},
      (∀ a ∈ attributes, seen.lookup a.1.toList = none) →
      attributesFrom seen position (attributeText attributes) =
        attributes.map fun a => .ok ⟨a.1.toList, escape a.2⟩ := by
  induction attributes with
  | nil =>
    intro seen position _
    rw [attributeText, List.flatMap_nil, attributesFrom]
    rfl
  | cons a attributes ih =>
    intro seen position hseen
    rw [List.map_cons, List.nodup_cons] at hnodup
    have htext : attributeText (a :: attributes) = attributeText [a] ++ attributeText attributes := by
      rw [attributeText, List.flatMap_cons, attributeText, List.flatMap_singleton, attributeText]
    obtain ⟨start, next, hfirst⟩ := @attributesFrom_cons seen position a (attributeText attributes)
      (hword a List.mem_cons_self) (hseen a List.mem_cons_self)
    rw [htext, hfirst, List.map_cons]
    congr 1
    refine ih (fun b hb => hword b (List.mem_cons_of_mem a hb)) hnodup.2 fun b hb => ?_
    have hne : a.1.toList ≠ b.1.toList := fun heq => hnodup.1 <| by
      rw [String.toList_injective heq]
      exact List.mem_map_of_mem hb
    have hb' := hseen b (List.mem_cons_of_mem a hb)
    simp only [List.lookup_eq_none_iff, List.mem_append, List.mem_singleton] at hb' ⊢
    rintro p (hp | rfl)
    · exact hb' p hp
    · simpa using hne.symm

/-- The element without namespace of a name and attributes. -/
def plainElement (name : String) (attributes : List (String × String)) : Element :=
  ⟨⟨none, name⟩, none, attributes.map fun a => ⟨⟨none, a.1⟩, none, a.2⟩, []⟩

/-- **A written start tag** spells the element of its name and attributes. -/
theorem spells_plain {name : String} {attributes : List (String × String)} (hname : IsWord name)
    (h : PlainAttributes attributes) :
    Tag.Spells [] [] ⟨name.toList, attributeText attributes⟩ (plainElement name attributes) := by
  have hdeclared : ∀ a ∈ attributes, declaredQualifier? a.1.toList = none := fun a ha =>
    (h.word a ha).declaredQualifier? (h.declaresNothing a ha)
  refine ⟨hname.ofChars.symm, ⟨attributes.map fun a => (a.1.toList, a.2), ?_, ?_, ?_⟩, rfl, ?_⟩
  · rw [Tag.attributes, attributesFrom_attributeText h.word h.nodup (fun a _ => rfl),
      List.forall₂_map_left_iff, List.forall₂_map_right_iff, List.forall₂_same]
    exact fun a _ => ⟨_, a.2.toList, rfl, expand_escape a.2, by rw [String.ofList_toList]⟩
  · rw [declarationsOf, List.filterMap_map]
    exact (List.filterMap_eq_nil_iff.2 fun a ha => by simp [hdeclared a ha]).symm
  · rw [plainAttributes, List.filterMap_map, plainElement, List.map_map, eq_comm]
    refine (List.filterMap_congr fun a ha => ?_).trans (congrFun List.filterMap_eq_map attributes)
    simp [hdeclared a ha, (h.word a ha).ofChars]
  · simp only [plainElement, List.mem_map]
    rintro _ ⟨a, -, rfl⟩
    rfl

end XmlAudit.Xml
