import XmlAudit.Proofs.Outcome
import XmlAudit.Proofs.Text.Words
import XmlAudit.Xml.Builder

/-!
# The elements of start tags

* `attributesFrom_cases`: what one step of reading attributes finds.
* `Tag.keys_nodup`: the keys of the attributes of a tag are distinct.
* `openElement_eq_ok`: when a start tag opens an element, and which.
* `Tag.Spells.resolved`: that element is resolved in its scope.
-/

namespace XmlAudit.Xml

open Text (dropWord_eq_some_iff)

/-! ## Keys -/

/-- A name is written as it was read. -/
theorem QName.render_ofChars (cs : List Char) : (QName.ofChars cs).render = String.ofList cs := by
  have hsplit := List.takeWhile_append_dropWhile (p := (· ≠ ':')) (l := cs)
  unfold QName.ofChars
  split
  · next c rest hd =>
    have hc : c = ':' := by
      have h := List.head_dropWhile_not (fun c : Char => decide (c ≠ ':')) (l := cs)
        (by rw [hd]; exact List.cons_ne_nil c rest)
      simp only [hd, List.head_cons] at h
      simpa using h
    rw [QName.render]
    apply String.toList_injective
    rw [hd, hc] at hsplit
    simpa [String.toList_append] using hsplit
  · rfl

theorem QName.ofChars_injective : Function.Injective QName.ofChars := by
  intro as bs h
  have hr := congrArg QName.render h
  rw [render_ofChars, render_ofChars] at hr
  exact String.ofList_injective hr

theorem declaredQualifier?_eq_some_iff {key : List Char} {q : Option String} :
    declaredQualifier? key = some q ↔
      (q = none ∧ key = "xmlns".toList) ∨ ∃ p, q = some p ∧ key = "xmlns:".toList ++ p.toList := by
  unfold declaredQualifier?
  split
  · next hk =>
    subst hk
    constructor
    · intro h; exact .inl ⟨(Option.some.inj h).symm, rfl⟩
    · rintro (⟨rfl, -⟩ | ⟨p, -, hp⟩)
      · rfl
      · have := congrArg List.length hp
        simp at this
  · next hk =>
    rw [Option.map_eq_some_iff]
    constructor
    · rintro ⟨p, hp, rfl⟩
      exact .inr ⟨String.ofList p, rfl, by simpa using dropWord_eq_some_iff.1 hp⟩
    · rintro (⟨-, h⟩ | ⟨p, rfl, hp⟩)
      · exact absurd h hk
      · exact ⟨p.toList, dropWord_eq_some_iff.2 hp, by simp⟩

/-- Different keys declare different qualifiers. -/
theorem declaredQualifier?_injective {key key' : List Char} {q : Option String}
    (h : declaredQualifier? key = some q) (h' : declaredQualifier? key' = some q) : key = key' := by
  rw [declaredQualifier?_eq_some_iff] at h h'
  rcases h with ⟨rfl, rfl⟩ | ⟨p, rfl, rfl⟩
  · rcases h' with ⟨-, rfl⟩ | ⟨p, hp, -⟩
    · rfl
    · cases hp
  · rcases h' with ⟨hq, -⟩ | ⟨p', hp, rfl⟩
    · cases hq
    · cases hp; rfl

/-! ## Attributes -/

theorem lookup_append_eq_none {α β : Type} [BEq α] [LawfulBEq α] {l : List (α × β)} {k k' : α}
    {v : β} (h : (l ++ [(k', v)]).lookup k = none) : l.lookup k = none ∧ k ≠ k' := by
  simp only [List.lookup_eq_none_iff, List.mem_append, List.mem_singleton] at h ⊢
  refine ⟨fun p hp => h p (.inl hp), ?_⟩
  rintro rfl
  simpa using h (k, v) (.inr rfl)

theorem map_ok_ne_error_cons {ε α : Type} {as : List α} {e : ε} {xs : List (Except ε α)} :
    as.map Except.ok ≠ .error e :: xs := by
  cases as <;> simp

/-- **One step of reading well-formed attributes** finds no more of them, or one whose key was not
met before. -/
theorem attributesFrom_cases {seen : List (List Char × Nat)} {position : Nat} {cs : List Char}
    {raws : List RawAttribute} (h : attributesFrom seen position cs = raws.map .ok) :
    raws = [] ∨ ∃ r later start position' rest, raws = r :: later ∧ seen.lookup r.key = none ∧
      attributesFrom (seen ++ [(r.key, start)]) position' rest = later.map .ok := by
  rw [attributesFrom] at h
  -- every fault would come first in the list
  split at h
  · exact .inl (by simpa using h.symm)
  · simp only at h
    split at h
    · split at h
      · exact absurd h.symm map_ok_ne_error_cons
      · split at h
        · exact absurd h.symm map_ok_ne_error_cons
        · split at h
          · split at h
            · exact absurd h.symm map_ok_ne_error_cons
            · cases raws with
              | nil => cases h
              | cons r later =>
                obtain ⟨hr, hlater⟩ := List.cons.inj h
                cases hr
                exact .inr ⟨_, later, _, _, _, rfl, ‹_›, hlater⟩
          · exact absurd h.symm map_ok_ne_error_cons
    · exact absurd h.symm map_ok_ne_error_cons

/-- The keys of well-formed attributes are distinct, and none of them was met before. -/
theorem attributesFrom_nodup {seen : List (List Char × Nat)} {position : Nat} {cs : List Char}
    {raws : List RawAttribute} (h : attributesFrom seen position cs = raws.map .ok) :
    (raws.map (·.key)).Nodup ∧ ∀ r ∈ raws, seen.lookup r.key = none := by
  induction raws generalizing seen position cs with
  | nil => simp
  | cons r raws ih =>
    obtain h | ⟨r', later, start, position', rest, heq, hr, hlater⟩ := attributesFrom_cases h
    · cases h
    · cases heq
      obtain ⟨hnodup, hseen⟩ := ih hlater
      have hne : ∀ a ∈ raws, seen.lookup a.key = none ∧ a.key ≠ r.key := fun a ha =>
        lookup_append_eq_none (hseen a ha)
      rw [List.map_cons, List.nodup_cons]
      refine ⟨⟨fun hmem => ?_, hnodup⟩, ?_⟩
      · obtain ⟨a, ha, hkey⟩ := List.mem_map.1 hmem
        exact (hne a ha).2 hkey
      · exact List.forall_mem_cons.2 ⟨hr, fun a ha => (hne a ha).1⟩

/-- An attribute as written gives a key and a value. -/
def Reads (entities : Entities) (raw : Except AttributeFault RawAttribute)
    (a : List Char × String) : Prop :=
  ∃ r value, raw = .ok r ∧ expand entities r.value = .ok value ∧ a = (r.key, String.ofList value)

variable {entities : Entities} {raws : List (Except AttributeFault RawAttribute)}
  {attributes : List (List Char × String)}

theorem readAttributes_eq_ok :
    readAttributes entities raws = .ok attributes ↔
      List.Forall₂ (Reads entities) raws attributes := by
  induction raws generalizing attributes with
  | nil =>
    rw [readAttributes, List.forall₂_nil_left_iff]
    exact ⟨fun h => by cases h; rfl, fun h => by subst h; rfl⟩
  | cons raw raws ih =>
    rw [List.forall₂_cons_left_iff]
    constructor
    · intro h
      unfold readAttributes at h
      split at h
      · next heq => cases heq
      · cases h
      · next r rest heq =>
        obtain ⟨rfl, rfl⟩ := List.cons.inj heq
        split at h
        · cases h
        · next value hv =>
          obtain ⟨later, hl, h⟩ := bind_eq_ok.1 h
          cases h
          exact ⟨_, later, ⟨r, value, rfl, hv, rfl⟩, ih.1 hl, rfl⟩
    · rintro ⟨a, later, ⟨r, value, rfl, hv, rfl⟩, hl, rfl⟩
      rw [readAttributes, hv]
      exact bind_eq_ok.2 ⟨later, ih.2 hl, rfl⟩

/-- The attributes that can be read are those of a list of well-formed ones with the same keys. -/
theorem exists_raws_of_reads (h : List.Forall₂ (Reads entities) raws attributes) :
    ∃ rs : List RawAttribute, raws = rs.map .ok ∧ rs.map (·.key) = attributes.map (·.1) := by
  induction h with
  | nil => exact ⟨[], rfl, rfl⟩
  | cons h _ ih =>
    obtain ⟨r, value, rfl, -, rfl⟩ := h
    obtain ⟨rs, rfl, hkeys⟩ := ih
    exact ⟨r :: rs, rfl, by rw [List.map_cons, List.map_cons, hkeys]⟩

/-- **The keys of the attributes of a tag are distinct.** -/
theorem Tag.keys_nodup {tag : Tag} (h : List.Forall₂ (Reads entities) tag.attributes attributes) :
    (attributes.map (·.1)).Nodup := by
  obtain ⟨rs, hrs, hkeys⟩ := exists_raws_of_reads h
  rw [← hkeys]
  exact (attributesFrom_nodup hrs).1

/-- What is read off the keys of a list is distinct where the keys are and where no two keys give
the same. -/
theorem filterMap_nodup {κ α β γ : Type} {f : κ × α → Option β} {g : β → γ} {l : List (κ × α)}
    (hl : (l.map (·.1)).Nodup)
    (hf : ∀ a a' b b', f a = some b → f a' = some b' → g b = g b' → a.1 = a'.1) :
    ((l.filterMap f).map g).Nodup := by
  induction l with
  | nil => simp
  | cons a l ih =>
    rw [List.map_cons, List.nodup_cons] at hl
    rw [List.filterMap_cons]
    split
    · exact ih hl.2
    · next b hb =>
      rw [List.map_cons, List.nodup_cons]
      refine ⟨fun hmem => hl.1 ?_, ih hl.2⟩
      obtain ⟨b', hb', hg⟩ := List.mem_map.1 hmem
      obtain ⟨a', ha', hfa⟩ := List.mem_filterMap.1 hb'
      rw [hf a a' b b' hb hfa hg.symm]
      exact List.mem_map_of_mem ha'

/-! ## Elements -/

/-- The names of an element belong to the namespaces that a scope gives them, and neither two
attributes nor two declarations share a name. -/
structure Element.Resolved (scope : List Declaration) (e : Element) : Prop where
  uri : elementUri scope e.name = .ok e.uri
  attributes : ∀ a ∈ e.attributes, attributeUri scope a.name = .ok a.uri
  names : (e.attributes.map (·.name)).Nodup
  declared : (e.declarations.map (·.1)).Nodup

/-- **A start tag spells an element** inside the declarations `outer`: its attributes can be read,
those named `xmlns` are its declarations, and with these all prefixes are bound. -/
structure Tag.Spells (entities : Entities) (outer : List Declaration) (tag : Tag) (e : Element) :
    Prop where
  name : e.name = QName.ofChars tag.name
  read : ∃ attributes, List.Forall₂ (Reads entities) tag.attributes attributes ∧
    e.declarations = declarationsOf attributes ∧
    e.attributes.map (fun a => (a.name, a.value)) = plainAttributes attributes
  uri : elementUri (e.declarations.reverse ++ outer) e.name = .ok e.uri
  attributes : ∀ a ∈ e.attributes,
    attributeUri (e.declarations.reverse ++ outer) a.name = .ok a.uri

/-- The element of a start tag is resolved in its scope. -/
theorem Tag.Spells.resolved {outer : List Declaration} {tag : Tag} {e : Element}
    (h : tag.Spells entities outer e) : e.Resolved (e.declarations.reverse ++ outer) := by
  obtain ⟨attributes, hread, hdecl, hplain⟩ := h.read
  have hkeys := Tag.keys_nodup hread
  refine ⟨h.uri, h.attributes, ?_, ?_⟩
  · have hnames : e.attributes.map (·.name) = (plainAttributes attributes).map (·.1) := by
      rw [← hplain, List.map_map]; rfl
    rw [hnames]
    refine filterMap_nodup hkeys fun a a' b b' hb hb' hg => ?_
    -- both are plain attributes, named by their keys
    split at hb
    · cases hb
    · split at hb'
      · cases hb'
      · cases hb; cases hb'
        exact QName.ofChars_injective hg
  · rw [hdecl]
    refine filterMap_nodup hkeys fun a a' b b' hb hb' hg => ?_
    obtain ⟨q, hq, rfl⟩ := Option.map_eq_some_iff.1 hb
    obtain ⟨q', hq', rfl⟩ := Option.map_eq_some_iff.1 hb'
    obtain rfl : q = q' := hg
    exact declaredQualifier?_injective hq hq'

theorem forall₂_attributes {scope : List Declaration} {plain : List (QName × String)}
    {as : List Attribute} :
    List.Forall₂ (fun a (b : Attribute) =>
        (do let uri ← attributeUri scope a.1; return Attribute.mk a.1 uri a.2) = Except.ok b)
        plain as ↔
      as.map (fun a => (a.name, a.value)) = plain ∧
        ∀ a ∈ as, attributeUri scope a.name = .ok a.uri := by
  induction as generalizing plain with
  | nil =>
    rw [List.forall₂_nil_right_iff]
    simp [eq_comm]
  | cons a as ih =>
    rw [List.forall₂_cons_right_iff]
    constructor
    · rintro ⟨p, ps, h, hps, rfl⟩
      obtain ⟨uri, hu, h⟩ := bind_eq_ok.1 h
      cases h
      obtain ⟨hmap, hall⟩ := ih.1 hps
      exact ⟨by rw [List.map_cons, hmap], List.forall_mem_cons.2 ⟨hu, hall⟩⟩
    · rintro ⟨rfl, hall⟩
      obtain ⟨hu, hall⟩ := List.forall_mem_cons.1 hall
      exact ⟨_, _, bind_eq_ok.2 ⟨_, hu, rfl⟩, ih.2 ⟨rfl, hall⟩, rfl⟩

/-- **A start tag opens the element that it spells**, and no other. -/
theorem openElement_eq_ok {outer scope : List Declaration} {tag : Tag} {e : Element} :
    openElement entities outer tag = .ok (e, scope) ↔
      tag.Spells entities outer e ∧ scope = e.declarations.reverse ++ outer := by
  constructor
  · intro h
    obtain ⟨attributes, hread, h⟩ := bind_eq_ok.1 h
    obtain ⟨uri, huri, h⟩ := bind_eq_ok.1 h
    obtain ⟨plain, hplain, h⟩ := bind_eq_ok.1 h
    cases h
    obtain ⟨hmap, hall⟩ := forall₂_attributes.1 (mapM_eq_ok.1 hplain)
    exact ⟨⟨rfl, ⟨attributes, readAttributes_eq_ok.1 hread, rfl, hmap⟩, huri, hall⟩, rfl⟩
  · rintro ⟨⟨hname, ⟨attributes, hread, hdecl, hmap⟩, huri, hall⟩, rfl⟩
    obtain ⟨name, uri, plain, declarations⟩ := e
    simp only at hname hdecl hmap huri hall
    subst hname hdecl
    refine bind_eq_ok.2 ⟨attributes, readAttributes_eq_ok.2 hread, ?_⟩
    refine bind_eq_ok.2 ⟨uri, huri, ?_⟩
    exact bind_eq_ok.2 ⟨plain, mapM_eq_ok.2 (forall₂_attributes.2 ⟨hmap, hall⟩), rfl⟩

end XmlAudit.Xml
