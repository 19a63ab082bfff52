import XmlAudit.Proofs.Location.Names
import XmlAudit.Proofs.XPath.Walking
import XmlAudit.Schematron.Firing

/-!
# Looking places up

* `placeOf`: the names and positions that the place of a node spells.
* `getElem?_positionOf`: an element has its position among the children of its name.
* `walk_placeSteps`: the steps of the place of an element lead to it alone.
* `select_translate`: the place of a node leads back to it, unless there is a name on its way that
  cannot be looked up.
-/

namespace XmlAudit.Location

open Schematron (positionOf stepOf elementPath locationOf)
open Xml (Document NodeId QName Element)
open Xml.Document (documentElement)
open XPath (Node Context Ending IndexedPath NameTest stepChars indexedStep attributeStep rootNode walk
  walk_append walk_nil walk_cons IsToken testOf isQName_iff)

variable {d : Document} {id p : NodeId} {e : Element} {n : Node}

/-! ## Places -/

/-- The name and the position of an element. -/
def placeStep? (d : Document) (id : NodeId) : Option (QName × Nat) :=
  (d.element? id).map fun e => (e.name, positionOf d id e.name)

/-- The names and positions on the way to an element. -/
def placeSteps (d : Document) (id : NodeId) : List (QName × Nat) :=
  ((d.ancestors id).reverse ++ [id]).filterMap (placeStep? d)

/-- What the place of a node ends with. -/
def endingOf (d : Document) (n : Node) : Ending :=
  match n with
  | .attr _ _ => ((n.attribute? d).map fun a => Ending.attr a.name).getD .element
  | .tree id => if !d.isElement id && (d.parent? id).isSome then .text else .element

/-- **The names and positions that the place of a node spells.** -/
def placeOf (d : Document) (n : Node) : Place := ⟨placeSteps d n.owner, endingOf d n⟩

theorem toList_stepOf (i : NodeId) :
    (stepOf d i).toList = (placeStep? d i).elim [] fun s => stepChars (nameStep s) := by
  rw [stepOf, placeStep?]
  cases d.element? i with
  | none => rfl
  | some e =>
    simp only [Option.map_some, Option.elim, stepChars_nameStep, String.toList_append]
    simp

theorem toList_elementPath :
    (elementPath d id).toList = (placeSteps d id).flatMap fun s => stepChars (nameStep s) := by
  rw [elementPath, placeSteps]
  induction (d.ancestors id).reverse ++ [id] with
  | nil => rfl
  | cons i ids ih =>
    rw [List.map_cons, String.join_cons, String.toList_append, ih, toList_stepOf,
      List.filterMap_cons]
    cases placeStep? d i <;> rfl

theorem placeSteps_root (h : d.Sound) : placeSteps d Document.root = [] := by
  have hnone : d.ancestors Document.root = [] := rfl
  rw [placeSteps, hnone]
  simp [placeStep?, h.element?_root]

/-- The way to an element leads through its parent. -/
theorem placeSteps_eq (h : d.Sound) (he : d.element? id = some e) (hp : d.parent? id = some p) :
    placeSteps d id = placeSteps d p ++ [(e.name, positionOf d id e.name)] := by
  rw [placeSteps, placeSteps, h.ancestors_eq hp, List.reverse_cons, List.filterMap_append]
  simp [placeStep?, he]

/-- A step of a place is that of an element on the way. -/
theorem mem_placeSteps {s : QName × Nat} (hs : s ∈ placeSteps d id) :
    ∃ i ∈ id :: d.ancestors id, ∃ e, d.element? i = some e ∧
      s = (e.name, positionOf d i e.name) := by
  obtain ⟨i, hmem, hi⟩ := List.mem_filterMap.1 hs
  obtain ⟨e, he, rfl⟩ := Option.map_eq_some_iff.1 hi
  refine ⟨i, ?_, e, he, rfl⟩
  simpa [or_comm] using hmem

theorem placeSteps_ne_nil (he : d.element? id = some e) : placeSteps d id ≠ [] := by
  rw [placeSteps, List.filterMap_append]
  simp [placeStep?, he]

/-- A node with a name is an element or an attribute of one. -/
theorem exists_owner (hn : (n.name? d).isSome) : ∃ e, d.element? n.owner = some e := by
  cases n with
  | tree id =>
    rw [Node.name?, Option.isSome_map] at hn
    exact Option.isSome_iff_exists.1 hn
  | attr owner i =>
    cases he : d.element? owner with
    | none => simp [Node.name?, Node.attribute?, he] at hn
    | some e => exact ⟨e, he⟩

theorem toList_lastStep : (Schematron.lastStep d n).toList = (endingOf d n).chars := by
  cases n with
  | tree id =>
    simp only [Schematron.lastStep, endingOf]
    split <;> simp [Ending.chars, Ending.words]
  | attr owner i =>
    simp only [Schematron.lastStep, endingOf, Node.name?]
    cases Node.attribute? d (.attr owner i) with
    | none => rfl
    | some a => simp [Ending.chars, Ending.words, String.toList_append]

/-- **The place of a node** is what it spells, unless there is nothing on the way to it. -/
theorem locationOf_eq (hne : placeSteps d n.owner ≠ []) :
    locationOf d n = String.ofList (placeOf d n).chars := by
  have hpath : (elementPath d n.owner ++ Schematron.lastStep d n).toList = (placeOf d n).chars := by
    rw [String.toList_append, toList_elementPath, toList_lastStep, Place.chars, IndexedPath.chars,
      Place.path, placeOf, List.flatMap_map]
  -- only the place of the root is written otherwise
  have hempty : elementPath d n.owner ++ Schematron.lastStep d n ≠ "" := by
    intro hempty
    obtain ⟨s, steps, hs⟩ := List.exists_cons_of_ne_nil hne
    rw [hempty, placeOf, hs, Place.chars_cons, stepChars_nameStep] at hpath
    cases hpath
  rw [locationOf, if_neg hempty, ← hpath, String.ofList_toList]

/-! ## Positions -/

theorem getElem?_filter_takeWhile {α : Type} [DecidableEq α] {l : List α} {a : α} {q : α → Bool}
    (ha : a ∈ l) (hq : q a) : (l.filter q)[((l.takeWhile (· ≠ a)).filter q).length]? = some a := by
  induction l with
  | nil => cases ha
  | cons b l ih =>
    by_cases hb : b = a
    · subst hb
      simp [hq]
    · have hmem : a ∈ l := (List.mem_cons.1 ha).resolve_left (Ne.symm hb)
      have hrest := ih hmem
      rw [List.takeWhile_cons_of_pos (by simpa using hb), List.filter_cons, List.filter_cons]
      cases q b <;> simpa using hrest

/-- **An element has its position among the children of its name.** -/
theorem getElem?_positionOf (h : d.Sound) (he : d.element? id = some e)
    (hp : d.parent? id = some p) :
    ((d.children p).filter fun i => decide ((d.element? i).map (·.name) = some e.name))[
      positionOf d id e.name]? = some id := by
  rw [positionOf, hp]
  refine getElem?_filter_takeWhile (h.child_iff.2 hp) ?_
  simp [he]

/-- Positions are below the number of children. -/
theorem positionOf_lt (h : d.Sound) (hnarrow : ∀ p, (d.children p).length < 2 ^ 53)
    (he : d.element? id = some e) : positionOf d id e.name + 1 < 2 ^ 53 := by
  obtain ⟨p, hp⟩ := h.exists_parent he
  obtain ⟨hlt, -⟩ := List.getElem?_eq_some_iff.1 (getElem?_positionOf h he hp)
  have hle := List.length_filter_le (fun i => decide ((d.element? i).map (·.name) = some e.name))
    (d.children p)
  exact Nat.lt_of_le_of_lt (Nat.le_trans hlt hle) (hnarrow p)

/-! ## Places that are path expressions -/

/-- **The place of a node is a path expression**: the names on the way to it are read as one token
each. No node has more children than doubles can count. -/
structure Expressible (d : Document) (n : Node) : Prop where
  elements : ∀ i ∈ n.owner :: d.ancestors n.owner, ∀ e ∈ d.element? i, IsToken e.name
  attr : ∀ a ∈ n.attribute? d, IsToken a.name
  short : ∀ i < d.size, (d.children i).length < 2 ^ 53

theorem expressible_iff : Expressible d n ↔
    (∀ i ∈ n.owner :: d.ancestors n.owner, ∀ e ∈ d.element? i, IsToken e.name) ∧
    (∀ a ∈ n.attribute? d, IsToken a.name) ∧ ∀ i < d.size, (d.children i).length < 2 ^ 53 :=
  ⟨fun h => ⟨h.elements, h.attr, h.short⟩, fun h => ⟨h.1, h.2.1, h.2.2⟩⟩

instance : Decidable (Expressible d n) := decidable_of_iff _ expressible_iff.symm

namespace Expressible

variable (h : Expressible d n)

include h

theorem narrow (i : NodeId) : (d.children i).length < 2 ^ 53 := by
  rcases Nat.lt_or_ge i d.size with hi | hi
  · exact h.short i hi
  · rw [Document.children_eq_nil hi]
    decide

theorem along_short (m : Node) : (m.along d .child).length < 2 ^ 53 := by
  cases m with
  | attr owner i =>
    have hnone : (Node.attr owner i).along d .child = [] := rfl
    rw [hnone]
    decide
  | tree i =>
    have hchildren : (Node.tree i).along d .child = (d.children i).map .tree := rfl
    rw [hchildren, List.length_map]
    exact h.narrow i

theorem legible : (placeOf d n).Legible := by
  constructor
  · intro s hs
    obtain ⟨i, hi, e, he, rfl⟩ := mem_placeSteps hs
    exact isQName_iff.2 (h.elements i hi e he)
  · show (endingOf d n).Legible
    cases n with
    | tree i =>
      rw [endingOf]
      split <;> trivial
    | attr owner i =>
      rw [endingOf]
      cases hattribute : Node.attribute? d (.attr owner i) with
      | none => trivial
      | some a => exact isQName_iff.2 (h.attr a hattribute)

theorem positions (hd : d.Sound) : ∀ s ∈ placeSteps d n.owner, s.2 + 1 < 2 ^ 53 := by
  intro s hs
  obtain ⟨i, -, e, he, rfl⟩ := mem_placeSteps hs
  exact positionOf_lt hd h.narrow he

end Expressible

theorem Addressable.expressible (ha : Addressable d) : Expressible d n := by
  refine ⟨fun i _ e he => ha.elements i e he, fun a hattribute => ?_, fun i _ => ha.narrow i⟩
  cases n with
  | tree id => cases hattribute
  | attr owner i =>
    obtain ⟨e, he, hi⟩ := Option.bind_eq_some_iff.1 hattribute
    exact ha.attributes owner e he a (List.mem_of_getElem? hi)

/-! ## Walks -/

/-- What a place is looked up in. -/
def lookupContext (d : Document) : Context := ⟨d, .ofDocument d false, [], rootNode⟩

/-- The step by which an element is looked up. -/
def lookupStep (d : Document) (s : QName × Nat) : NameTest × Nat :=
  nameStep (lookupName (defaultUri d).isSome s.1, s.2 + 1)

/-- **The way to a node can be traced** if every element on it can be looked up by its name. -/
def Traceable (d : Document) (id : NodeId) : Prop :=
  ∀ i ∈ id :: d.ancestors id, ∀ e ∈ d.element? i, findable d e.name

instance : Decidable (Traceable d id) :=
  inferInstanceAs (Decidable (∀ i ∈ id :: d.ancestors id, ∀ e ∈ d.element? i, findable d e.name))

theorem traceable_iff (h : d.Sound) (he : d.element? id = some e) (hp : d.parent? id = some p) :
    Traceable d id ↔ Traceable d p ∧ findable d e.name := by
  rw [Traceable, List.forall_mem_cons, h.ancestors_eq hp, he, and_comm]
  refine and_congr_right fun _ => ⟨fun hfind => hfind e rfl, ?_⟩
  rintro hfind e' he'
  cases he'
  exact hfind

/-- Which children of a node pass the test for the name of an element. -/
theorem satisfies_child (h : d.Sound) (ht : d.Tidy) (ha : Addressable d)
    (he : d.element? id = some e) (i : NodeId) :
    Node.satisfies d (.ofDocument d false) .child
        (.named (testOf (lookupName (defaultUri d).isSome e.name))) (.tree i) =
      .ok (findable d e.name && decide ((d.element? i).map (·.name) = some e.name)) := by
  rw [Node.satisfies]
  cases he' : d.element? i with
  | none => simp
  | some e' =>
    have hne : XPath.Axis.child ≠ .attributes := by decide
    simp only [if_neg hne, accepts_element h ht ha he he', Option.map_some, Option.some.injEq]

/-- **The step of an element leads to it** from its parent, or nowhere if its name cannot be looked
up. -/
theorem lookupStep_from (h : d.Sound) (ht : d.Tidy) (ha : Addressable d)
    (he : d.element? id = some e) (hp : d.parent? id = some p) :
    (indexedStep (lookupStep d (e.name, positionOf d id e.name))).from (lookupContext d) (.tree p) =
      .ok (if findable d e.name then some (Node.tree id) else none).toList := by
  have hat := getElem?_positionOf h he hp
  have hposition := positionOf_lt h ha.narrow he
  have hfrom := @XPath.indexedStep_from (lookupContext d) p _ _ _
    (fun i _ => satisfies_child h ht ha he i) (ha.narrow p) hposition
  have hdocument : (lookupContext d).document = d := rfl
  rw [lookupStep, nameStep, hfrom, hdocument]
  cases findable d e.name with
  | false => simp
  | true =>
    simp only [Bool.true_and, hat]
    rfl

/-- **The steps of the place of an element lead to it alone**, or nowhere if a name on its way
cannot be looked up. -/
theorem walk_placeSteps (h : d.Sound) (ht : d.Tidy) (ha : Addressable d)
    (hid : id = Document.root ∨ ∃ e, d.element? id = some e) :
    walk (lookupContext d) ((placeSteps d id).map fun s => indexedStep (lookupStep d s)) [rootNode] =
      .ok (if Traceable d id then [.tree id] else []) := by
  -- by induction on the index: a parent comes before its children
  induction id using Nat.strongRecOn with
  | _ id ih =>
    rcases hid with rfl | ⟨e, he⟩
    · rw [placeSteps_root h, List.map_nil, walk, if_pos]
      · rfl
      · intro i hi e he
        rw [List.mem_singleton.1 hi, h.element?_root] at he
        cases he
    · obtain ⟨p, hp⟩ := h.exists_parent he
      have hparent : p = Document.root ∨ ∃ e, d.element? p = some e :=
        (h.parent_cases hp).imp And.left fun he => he
      have hwalk := ih p (h.parent_lt hp) hparent
      have hfrom := lookupStep_from h ht ha he hp
      have hall := traceable_iff h he hp
      rw [placeSteps_eq h he hp, List.map_append, walk_append, hwalk, List.map_singleton]
      by_cases hparents : Traceable d p
      · rw [if_pos hparents]
        refine (walk_cons hfrom).trans ?_
        rw [walk]
        by_cases hfind : findable d e.name = true
        · rw [if_pos hfind, if_pos (hall.2 ⟨hparents, hfind⟩)]
          rfl
        · rw [if_neg hfind, if_neg fun hid => hfind (hall.1 hid).2]
          rfl
      · rw [if_neg hparents, if_neg fun hid => hparents (hall.1 hid).1]
        exact walk_nil _

/-- **The step of an attribute leads to it** from its element. -/
theorem attribute_from (h : d.Sound) (ht : d.Tidy) (ha : Addressable d)
    (he : d.element? id = some e) {i : Nat} {a : Xml.Attribute} (hi : e.attributes[i]? = some a) :
    (attributeStep a.name).from (lookupContext d) (.tree id) = .ok [.attr id i] := by
  obtain ⟨hlt, hget⟩ := List.getElem?_eq_some_iff.1 hi
  refine XPath.attributeStep_from he hlt fun j hj => ?_
  have hattribute : Node.attribute? d (.attr id j) = some e.attributes[j] := by
    rw [Node.attribute?, he]
    exact List.getElem?_eq_getElem hj
  have hmem : a ∈ e.attributes := List.mem_of_getElem? hi
  have haccepts := accepts_attribute h ht ha he hmem (List.getElem_mem hj)
  -- no element has two attributes of one name
  have hnames : e.attributes[j].name = a.name ↔ j = i := by
    have hinj := @List.Nodup.getElem_inj_iff _ _ (ht.resolved id e he).names
      j (by rwa [List.length_map]) i (by rwa [List.length_map])
    rw [List.getElem_map, List.getElem_map, hget] at hinj
    exact hinj
  show Node.satisfies d (.ofDocument d false) .attributes (.named (testOf a.name)) (.attr id j) = _
  rw [Node.satisfies, hattribute]
  simp only [if_true]
  rw [haccepts, decide_eq_decide.2 hnames]
  rfl

/-! ## Lookups -/

/-- **A path selects what its steps lead to.** -/
theorem select_chars {k : Locator} {path : IndexedPath} {ns : List Node} (h : path.Legible)
    (hne : path.steps ≠ []) : k.select (String.ofList path.chars) = .ok ns ↔
      walk (lookupContext k.document) path.readSteps [rootNode] = .ok ns := by
  rw [Locator.select, XPath.Query.compile, IndexedPath.parse_eq h hne]
  refine XPath.Query.select_eq_ok.trans ?_
  rw [XPath.Expr.eval, bind_eq_ok]
  constructor
  · rintro ⟨ms, hms, heq⟩
    cases heq
    exact hms
  · intro hns
    exact ⟨ns, hns, rfl⟩

theorem steps_lookup (b : Bool) (p : Place) :
    (lookup b p).steps = p.steps.map fun s => (lookupName b s.1, s.2 + 1) := by
  rw [lookup]
  cases b <;> simp [shifted, prefixed, lookupName]

theorem ending_lookup (b : Bool) (p : Place) : (lookup b p).ending = p.ending := by
  rw [lookup]
  cases b <;> rfl

theorem walk_placeOf (h : d.Sound) (ht : d.Tidy) (ha : Addressable d) (hn : (n.name? d).isSome) :
    walk (lookupContext d) (lookup (defaultUri d).isSome (placeOf d n)).path.readSteps [rootNode] =
      .ok (if Traceable d n.owner then [n] else []) := by
  obtain ⟨e, he⟩ := exists_owner hn
  have hwalk := walk_placeSteps h ht ha (.inr ⟨e, he⟩)
  have hsteps : (lookup (defaultUri d).isSome (placeOf d n)).path.steps.map indexedStep =
      (placeSteps d n.owner).map fun s => indexedStep (lookupStep d s) := by
    rw [Place.path, steps_lookup, List.map_map, List.map_map]
    rfl
  rw [IndexedPath.readSteps, walk_append, hsteps, hwalk, Place.path, ending_lookup]
  show walk (lookupContext d) (endingOf d n).readSteps _ = _
  -- an attribute is one step from the element to which the steps lead
  cases n with
  | tree id =>
    have he' : d.element? id = some e := he
    have hending : endingOf d (.tree id) = .element := by simp [endingOf, Document.isElement, he']
    rw [hending, Ending.readSteps, walk]
    rfl
  | attr owner i =>
    obtain ⟨a, hattribute⟩ := Option.isSome_iff_exists.1 (Option.isSome_map.symm.trans hn)
    have hi : e.attributes[i]? = some a := by
      have he' : d.element? owner = some e := he
      rwa [Node.attribute?, he'] at hattribute
    have hending : endingOf d (.attr owner i) = .attr a.name := by simp [endingOf, hattribute]
    rw [hending, Ending.readSteps]
    by_cases hall : Traceable d owner
    · have hall' : Traceable d (Node.attr owner i).owner := hall
      rw [if_pos hall', if_pos hall']
      have hfrom := attribute_from h ht ha he hi
      have hstep : walk (lookupContext d) [attributeStep a.name] [.tree owner] =
          walk (lookupContext d) [] (some (Node.attr owner i)).toList := walk_cons hfrom
      refine hstep.trans ?_
      rw [walk]
      rfl
    · have hall' : ¬Traceable d (Node.attr owner i).owner := hall
      rw [if_neg hall', if_neg hall']
      exact walk_nil _

/-- The prefix of an element may stand in a step. -/
theorem not_isMistaken (h : d.Sound) (ht : d.Tidy) (ha : Addressable d)
    (he : d.element? id = some e) : isMistaken e.name = false := by
  have hall : ∀ q ∈ e.name.qualifier, q.toList.all isStepChar = true := by
    intro q hq
    rcases bound_element h ht ha he with ⟨hnone, -⟩ | ⟨hxml, -⟩ | ⟨q', u, hq', -, hmem, -⟩
    · rw [hnone] at hq
      cases hq
    · rw [hxml] at hq
      cases hq
      have hchars : "xml".toList = ['x', 'm', 'l'] := by simp
      rw [hchars]
      decide
    · rw [hq'] at hq
      cases hq
      exact List.all_eq_true.2 (ha.prefixes _ hmem q rfl).2
  rw [isMistaken, Option.any_eq_false]
  intro q hq
  rw [hall q hq, Bool.not_true, Bool.and_false]

theorem hasDefaultNamespace_eq (engine : Bool) :
    (Locator.mk d engine).hasDefaultNamespace = (defaultUri d).isSome := by
  rw [Bool.eq_iff_iff, defaultUri, List.lookup_isSome_iff, Locator.hasDefaultNamespace,
    Document.declarations]
  cases d.element? documentElement with
  | none => simp
  | some e =>
    simp only [List.any_eq_true, Option.map_some, Option.getD_some, List.mem_reverse]
    refine exists_congr fun b => and_congr_right fun _ => ?_
    obtain ⟨q, u⟩ := b
    cases q <;> simp

/-- **What the place of a node leads to**: that node alone, or nothing if a name on its way cannot
be looked up. -/
theorem select_translate (h : d.Sound) (ht : d.Tidy) (ha : Addressable d)
    (hn : (n.name? d).isSome) :
    (Locator.mk d true).select ((Locator.mk d true).translate (locationOf d n) true) =
      .ok (if Traceable d n.owner then [n] else []) := by
  have hx : Expressible d n := ha.expressible
  have hlegible := hx.legible
  obtain ⟨e, he⟩ := exists_owner hn
  have hpositions : ∀ s ∈ (placeOf d n).steps, s.2 + 1 < 2 ^ 64 := fun s hs =>
    Nat.lt_trans (hx.positions h s hs) (by decide)
  have hqualifiers : ∀ s ∈ (placeOf d n).steps, isMistaken s.1 = false := by
    intro s hs
    obtain ⟨i, -, e, he, rfl⟩ := mem_placeSteps hs
    exact not_isMistaken h ht ha he
  have hsteps : (lookup (defaultUri d).isSome (placeOf d n)).path.steps ≠ [] := by
    rw [Place.path, steps_lookup]
    exact fun hnil => placeSteps_ne_nil he (List.map_eq_nil_iff.1 (List.map_eq_nil_iff.1 hnil))
  rw [locationOf_eq (placeSteps_ne_nil he), translate_chars rfl hlegible hpositions
    fun _ => hqualifiers, hasDefaultNamespace_eq, Place.chars, select_chars
    (legible_lookup hlegible _).path hsteps]
  exact walk_placeOf h ht ha hn

/-! ## Round trips -/

/-- **The place of a node leads back to it.** Looked up, it selects that node alone and has its line,
where every name on the way to the node can be looked up. Where one cannot, it selects nothing: a
default namespace is declared and an unprefixed name does not get its prefix, because it starts with
a letter that patterns do not know. -/
theorem location_round_trip {bytes : List UInt8} (hd : Document.parse bytes = .ok d)
    (ha : Addressable d) (hn : (n.name? d).isSome) :
    let k : Locator := ⟨d, true⟩
    (Traceable d n.owner → k.select (k.translate (locationOf d n) true) = .ok [n] ∧
      k.lineOf (locationOf d n) = n.line d) ∧
    (¬Traceable d n.owner → k.select (k.translate (locationOf d n) true) = .ok []) := by
  intro k
  have hselect := select_translate (Document.parse_sound hd) (Document.parse_tidy hd) ha hn
  constructor
  · intro htrace
    rw [if_pos htrace] at hselect
    refine ⟨hselect, ?_⟩
    have hline : k.uniqueLine? (k.translate (locationOf d n) true) = some (n.line d) := by
      rw [Locator.uniqueLine?, hselect]
    rw [Locator.lineOf, hline]
  · intro htrace
    rwa [if_neg htrace] at hselect

/-- Of the two elements of a document with a default namespace, the outer one is found and the inner
one is not: its letter is too new for patterns. -/
theorem location_round_trip_new_letter :
    ∃ d, Document.parse "<a xmlns=\"u\"><\u088f/></a>".toUTF8.toList = .ok d ∧
      (Locator.mk d true).select ((Locator.mk d true).translate (locationOf d (.tree 1)) true) =
        .ok [.tree 1] ∧
      (Locator.mk d true).lineOf (locationOf d (.tree 1)) = 1 ∧
      (Locator.mk d true).select ((Locator.mk d true).translate (locationOf d (.tree 2)) true) =
        .ok [] := by
  obtain ⟨d, hd, ha, hn, hn', htrace, htrace', hline⟩ :
      ∃ d, Document.parse "<a xmlns=\"u\"><\u088f/></a>".toUTF8.toList = .ok d ∧
        Addressable d ∧ ((Node.tree 1).name? d).isSome ∧ ((Node.tree 2).name? d).isSome ∧
        Traceable d 1 ∧ ¬Traceable d 2 ∧ (Node.tree 1).line d = 1 := by
    refine ⟨.ofTree (.element 1 ⟨⟨none, "a"⟩, some "u", [], [(none, "u")]⟩
      [.element 1 ⟨⟨none, "\u088f"⟩, some "u", [], []⟩ []]), ?_, ?_⟩
    · exact Document.parse_eq_ok_of_nodes (by decide +kernel)
    · decide +kernel
  obtain ⟨hselect, hfound⟩ := (location_round_trip hd ha hn).1 htrace
  have hnone := (location_round_trip hd ha hn').2 htrace'
  exact ⟨d, hd, hselect, hfound.trans hline, hnone⟩

end XmlAudit.Location
