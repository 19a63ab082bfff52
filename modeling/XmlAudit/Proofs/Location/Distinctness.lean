import XmlAudit.Proofs.Location.Lookup
import XmlAudit.Proofs.Xml.SourceLines

/-!
# Nodes are told apart by their places

* `AsWritten`: a name that is what its text is read as; those of parsed documents are.
* `chars_injective`: a place is known from its characters.
* `placeSteps_injective`: an element is known from the names and positions on the way to it.
* `location_injOn`: no two elements or attributes have the same place.
-/

namespace XmlAudit.Location

open Number.Decimal (ofDigits ofDigits_toDigits)
open Schematron (positionOf locationOf)
open Text (append_mark_inj)
open Xml (Document NodeId QName Element Tag)
open XPath (Node Ending stepChars)

variable {d : Document} {id id' p p' : NodeId} {e e' : Element} {m n : Node} {name name' : QName}
  {ending ending' : Ending}

/-! ## Names -/

/-- A name that is what its own text is read as. -/
def AsWritten (name : QName) : Prop := QName.parse name.render = name

theorem asWritten_ofChars (cs : List Char) : AsWritten (QName.ofChars cs) := by
  rw [AsWritten, QName.render_ofChars, QName.parse, String.toList_ofList]

theorem AsWritten.render_inj (h : AsWritten name) (h' : AsWritten name')
    (heq : name.render.toList = name'.render.toList) : name = name' := by
  rw [← h, ← h', String.toList_inj.1 heq]

/-- **The names of a parsed document are as written.** -/
theorem asWritten_of_parse {bytes : List UInt8} (hd : Document.parse bytes = .ok d)
    (he : d.element? id = some e) : AsWritten e.name ∧ ∀ a ∈ e.attributes, AsWritten a.name := by
  obtain ⟨tag, entities, outer, hspells⟩ := Document.exists_tag hd he
  obtain ⟨attributes, -, -, hplain⟩ := hspells.read
  refine ⟨hspells.name ▸ asWritten_ofChars _, fun a ha => ?_⟩
  have hmem : (a.name, a.value) ∈ Xml.plainAttributes attributes := by
    rw [← hplain]
    exact List.mem_map_of_mem ha
  obtain ⟨key, -, hkey⟩ := List.mem_filterMap.1 hmem
  split at hkey
  · cases hkey
  · rw [← (Prod.mk.inj (Option.some.inj hkey)).1]
    exact asWritten_ofChars _

/-- A name that cannot be taken for more than the name of a step: no bracket opens in it, and it does
not start as that of an attribute does. -/
structure NamesStep (name : QName) : Prop where
  bracket : '[' ∉ name.render.toList
  sign : name.render.toList.head? ≠ some '@'

/-! ## Places -/

/-- The end of the place of an element or of an attribute. -/
inductive IsNamed : Ending → Prop where
  | element : IsNamed .element
  | attr {name : QName} (h : AsWritten name) : IsNamed (.attr name)

theorem IsNamed.chars_injective (h : IsNamed ending) (h' : IsNamed ending')
    (heq : ending.chars = ending'.chars) : ending = ending' := by
  cases h with
  | element =>
    cases h' with
    | element => rfl
    | attr => cases heq
  | attr h =>
    cases h' with
    | element => cases heq
    | attr h' =>
      have hname : ∀ name : QName, (Ending.attr name).chars = '/' :: '@' :: name.render.toList := by
        intro name
        simp [Ending.chars, Ending.words]
      rw [hname, hname] at heq
      rw [h.render_inj h' (List.cons.inj (List.cons.inj heq).2).2]

/-- The step of an element is not taken for the end of a place. -/
theorem IsNamed.chars_ne (h : IsNamed ending) (hname : NamesStep name) (k : Nat) (rest : List Char) :
    ending.chars ≠ stepChars (nameStep (name, k)) ++ rest := by
  intro heq
  rw [stepChars_nameStep] at heq
  cases h with
  | element => cases heq
  | @attr other _ =>
    simp only [Ending.chars, Ending.words, List.flatMap_cons, List.flatMap_nil, List.append_nil,
      List.cons_append, List.cons.injEq, true_and] at heq
    cases hchars : name.render.toList with
    | nil =>
      rw [hchars] at heq
      exact absurd (List.cons.inj heq).1 (by decide)
    | cons c cs =>
      rw [hchars] at heq
      obtain ⟨rfl, -⟩ := List.cons.inj heq
      exact hname.sign (by rw [hchars]; rfl)

/-- **A step is known from the characters that start with it.** -/
theorem step_prefix_unique {k k' : Nat} {rest rest' : List Char} (hname : NamesStep name)
    (hname' : NamesStep name') (hwritten : AsWritten name) (hwritten' : AsWritten name')
    (heq : stepChars (nameStep (name, k)) ++ rest = stepChars (nameStep (name', k')) ++ rest') :
    name = name' ∧ k = k' ∧ rest = rest' := by
  have hdigits : ∀ k, ']' ∉ Nat.toDigits 10 k := fun k hmem =>
    absurd (Nat.isDigit_of_mem_toDigits (by decide) (Nat.le_refl 10) hmem) (by decide)
  rw [stepChars_nameStep, stepChars_nameStep] at heq
  simp only [List.cons_append, List.append_assoc, List.nil_append, List.cons.injEq, true_and] at heq
  obtain ⟨hrender, hrest⟩ := append_mark_inj hname.bracket hname'.bracket heq
  obtain ⟨hk, hrest⟩ := append_mark_inj (hdigits k) (hdigits k') hrest
  refine ⟨hwritten.render_inj hwritten' hrender, ?_, hrest⟩
  rw [← ofDigits_toDigits k, ← ofDigits_toDigits k', hk]

/-- The names of steps can be read back. -/
def Readable (steps : List (QName × Nat)) : Prop := ∀ s ∈ steps, NamesStep s.1 ∧ AsWritten s.1

/-- **A place is known from its characters.** -/
theorem chars_injective {steps steps' : List (QName × Nat)} (hsteps : Readable steps)
    (hsteps' : Readable steps') (hending : IsNamed ending) (hending' : IsNamed ending')
    (heq : Place.chars ⟨steps, ending⟩ = Place.chars ⟨steps', ending'⟩) :
    steps = steps' ∧ ending = ending' := by
  have hnil : ∀ ending, Place.chars ⟨[], ending⟩ = ending.chars := fun _ => rfl
  induction steps generalizing steps' with
  | nil =>
    cases steps' with
    | nil => exact ⟨rfl, hending.chars_injective hending' heq⟩
    | cons s' steps' =>
      rw [hnil, Place.chars_cons] at heq
      exact absurd heq (hending.chars_ne (hsteps' s' List.mem_cons_self).1 s'.2 _)
  | cons s steps ih =>
    obtain ⟨⟨hname, hwritten⟩, hlater⟩ := List.forall_mem_cons.1 hsteps
    cases steps' with
    | nil =>
      rw [hnil, Place.chars_cons] at heq
      exact absurd heq.symm (hending'.chars_ne hname s.2 _)
    | cons s' steps' =>
      obtain ⟨⟨hname', hwritten'⟩, hlater'⟩ := List.forall_mem_cons.1 hsteps'
      rw [Place.chars_cons, Place.chars_cons] at heq
      obtain ⟨hs, hk, hrest⟩ := step_prefix_unique hname hname' hwritten hwritten' heq
      obtain ⟨rfl, rfl⟩ := ih hlater hlater' hrest
      exact ⟨by rw [Prod.ext hs hk], rfl⟩

/-! ## Nodes -/

/-- **An element is known from the names and positions on the way to it.** -/
theorem placeSteps_injective (h : d.Sound) (he : d.element? id = some e)
    (he' : d.element? id' = some e') (heq : placeSteps d id = placeSteps d id') : id = id' := by
  -- by induction on the number, as parents have smaller ones
  induction id using Nat.strongRecOn generalizing e id' e' with
  | _ id ih =>
    obtain ⟨p, hp⟩ := h.exists_parent he
    obtain ⟨p', hp'⟩ := h.exists_parent he'
    rw [placeSteps_eq h he hp, placeSteps_eq h he' hp'] at heq
    obtain ⟨hparents, hlast⟩ := List.append_inj' heq rfl
    obtain ⟨hname, hposition⟩ := Prod.mk.inj (List.cons.inj hlast).1
    rcases h.parent_cases hp with ⟨rfl, rfl⟩ | ⟨f, hf⟩
    · rcases h.parent_cases hp' with ⟨-, rfl⟩ | ⟨f', hf'⟩
      · rfl
      · rw [placeSteps_root h] at hparents
        exact absurd hparents.symm (placeSteps_ne_nil hf')
    · rcases h.parent_cases hp' with ⟨rfl, -⟩ | ⟨f', hf'⟩
      · rw [placeSteps_root h] at hparents
        exact absurd hparents (placeSteps_ne_nil hf)
      · obtain rfl := ih p (h.parent_lt hp) hf hf' hparents
        have hplace := getElem?_positionOf h he hp
        rw [hposition, hname, getElem?_positionOf h he' hp'] at hplace
        exact (Option.some.inj hplace).symm

/-- An attribute of an element is known from its name. -/
theorem attr_index_injective (ht : d.Tidy) (he : d.element? id = some e) {i j : Nat}
    {a b : Xml.Attribute} (ha : e.attributes[i]? = some a) (hb : e.attributes[j]? = some b)
    (heq : a.name = b.name) : i = j := by
  have hnames := (ht.resolved id e he).names
  obtain ⟨hi, rfl⟩ := List.getElem?_eq_some_iff.1 ha
  obtain ⟨hj, rfl⟩ := List.getElem?_eq_some_iff.1 hb
  have hi' : i < (e.attributes.map (·.name)).length := by rwa [List.length_map]
  have hj' : j < (e.attributes.map (·.name)).length := by rwa [List.length_map]
  refine (@List.Nodup.getElem_inj_iff _ _ hnames i hi' j hj').1 ?_
  rw [List.getElem_map, List.getElem_map, heq]

theorem endingOf_element (he : d.element? id = some e) : endingOf d (.tree id) = .element := by
  rw [endingOf, Document.isElement, he]
  rfl

theorem endingOf_attr {owner index : Nat} {a : Xml.Attribute}
    (ha : (Node.attr owner index).attribute? d = some a) :
    endingOf d (.attr owner index) = .attr a.name := by
  rw [endingOf, ha]
  rfl

theorem attribute?_eq_some {owner index : Nat} {a : Xml.Attribute} (he : d.element? owner = some e)
    (ha : e.attributes[index]? = some a) : (Node.attr owner index).attribute? d = some a := by
  rw [Node.attribute?, he, Option.bind_some, ha]

/-- A node with a name is an element, or an attribute of one. -/
theorem name?_cases (hn : (n.name? d).isSome) :
    (∃ id e, n = .tree id ∧ d.element? id = some e) ∨
      ∃ owner index e a, n = .attr owner index ∧ d.element? owner = some e ∧
        e.attributes[index]? = some a := by
  obtain ⟨e, he⟩ := exists_owner hn
  cases n with
  | tree id => exact .inl ⟨id, e, rfl, he⟩
  | attr owner index =>
    have he' : d.element? owner = some e := he
    rw [Node.name?, Option.isSome_map, Node.attribute?, he', Option.bind_some] at hn
    obtain ⟨a, ha⟩ := Option.isSome_iff_exists.1 hn
    exact .inr ⟨owner, index, e, a, rfl, he', ha⟩

/-- **No two elements or attributes have the same place**, whatever the namespaces of a parsed
document, if every name of an element can be told from what stands behind it: no bracket opens in it,
and it does not start with the sign of attributes. -/
theorem location_injOn {bytes : List UInt8} (hd : Document.parse bytes = .ok d)
    (hnames : ∀ id e, d.element? id = some e → NamesStep e.name) :
    Set.InjOn (locationOf d) {n | (n.name? d).isSome} := by
  have h := Document.parse_sound hd
  have hreadable : ∀ id, Readable (placeSteps d id) := by
    intro id s hs
    obtain ⟨i, -, e, he, rfl⟩ := mem_placeSteps hs
    exact ⟨hnames i e he, (asWritten_of_parse hd he).1⟩
  have hending : ∀ n : Node, (n.name? d).isSome → IsNamed (endingOf d n) := by
    intro n hn
    rcases name?_cases hn with ⟨id, e, rfl, he⟩ | ⟨owner, index, e, a, rfl, he, ha⟩
    · rw [endingOf_element he]
      exact .element
    · rw [endingOf_attr (attribute?_eq_some he ha)]
      exact .attr ((asWritten_of_parse hd he).2 a (List.mem_of_getElem? ha))
  -- one location has one list of steps and one ending, and the steps tell the owner
  intro m hm n hn heq
  obtain ⟨f, hf⟩ := exists_owner hm
  obtain ⟨f', hf'⟩ := exists_owner hn
  rw [locationOf_eq (placeSteps_ne_nil hf), locationOf_eq (placeSteps_ne_nil hf'),
    String.ofList_inj] at heq
  obtain ⟨hsteps, hends⟩ := chars_injective (hreadable _) (hreadable _) (hending m hm) (hending n hn)
    heq
  have howner := placeSteps_injective h hf hf' hsteps
  -- of one owner, the ending tells the element from its attributes and these from each other
  rcases name?_cases hm with ⟨id, e, rfl, he⟩ | ⟨owner, index, e, a, rfl, he, ha⟩ <;>
    rcases name?_cases hn with ⟨id', e', rfl, he'⟩ | ⟨owner', index', e', a', rfl, he', ha'⟩
  · obtain rfl : id = id' := howner
    rfl
  · rw [endingOf_element he, endingOf_attr (attribute?_eq_some he' ha')] at hends
    cases hends
  · rw [endingOf_attr (attribute?_eq_some he ha), endingOf_element he'] at hends
    cases hends
  · obtain rfl : owner = owner' := howner
    obtain rfl := Option.some.inj (he.symm.trans he')
    rw [endingOf_attr (attribute?_eq_some he ha), endingOf_attr (attribute?_eq_some he' ha')] at hends
    rw [attr_index_injective (Document.parse_tidy hd) he ha ha' (Ending.attr.inj hends)]

/-- Elements of one name in different namespaces, and attributes, are told apart in the document
`<a k="" l=""><b/>x<p:b xmlns:p="u"/><b xmlns="v" k=""/></a>`. -/
theorem location_injOn_siblings : ∃ d : Document,
    Document.parse "<a k='' l=''><b/>x<p:b xmlns:p='u'/><b xmlns='v' k=''/></a>".toUTF8.toList = .ok d ∧
      (∀ id e, d.element? id = some e → NamesStep e.name) ∧
      Set.InjOn (locationOf d) {n | (n.name? d).isSome} ∧
      [Node.tree 2, .tree 4, .tree 5, .attr 5 0, .attr 1 1].map (locationOf d) =
        ["/a[0]/b[0]", "/a[0]/p:b[0]", "/a[0]/b[1]", "/a[0]/b[1]/@k", "/a[0]/@l"] := by
  have hread : (Document.parse
      "<a k='' l=''><b/>x<p:b xmlns:p='u'/><b xmlns='v' k=''/></a>".toUTF8.toList).toOption.any
      (fun d => (∀ id < d.size, ∀ e ∈ d.element? id,
          '[' ∉ e.name.render.toList ∧ e.name.render.toList.head? ≠ some '@') ∧
        [Node.tree 2, .tree 4, .tree 5, .attr 5 0, .attr 1 1].map (locationOf d) =
          ["/a[0]/b[0]", "/a[0]/p:b[0]", "/a[0]/b[1]", "/a[0]/b[1]/@k", "/a[0]/@l"]) = true := by
    decide +kernel
  obtain ⟨d, hd, h⟩ := (Option.any_eq_true _ _).1 hread
  replace hd := toOption_eq_some.1 hd
  obtain ⟨hplain, hplaces⟩ := of_decide_eq_true h
  have hnames : ∀ id e, d.element? id = some e → NamesStep e.name := fun id e he =>
    ⟨(hplain id (Document.lt_size_of_element? he) e he).1,
      (hplain id (Document.lt_size_of_element? he) e he).2⟩
  exact ⟨d, hd, hnames, location_injOn hd hnames, hplaces⟩

end XmlAudit.Location
