import XmlAudit.Proofs.Location.Lookup
import XmlAudit.Proofs.Location.Wildcards
import XmlAudit.Proofs.XPath.Finding

/-!
# The readings of places

* `Reading`: how the names of a place are read, in the namespaces declared or in any.
* `reached`, `blamed?`: the nodes that a place leads to in a reading, and the one that is blamed.
* `node_cases`: the kinds of nodes that have places.
* `lineOf_eq`: the line that is reported is that of the node that is blamed.
-/

namespace XmlAudit.Location

open Schematron (locationOf)
open Xml (Document NodeId QName Element)
open XPath (Node IndexedPath NameTest Unscannable rootNode walk testOf found landing)

variable {d : Document} {id p : NodeId} {e : Element} {n : Node}

/-! ## Readings -/

/-- How the names on the way to a node are read: in the namespaces that the document element
declares, or in any namespace if they have no prefix. -/
inductive Reading where
  | declared
  | anyNamespace

namespace Reading

/-- The test for the name of an element. -/
def test (hasDefault : Bool) : Reading → QName → NameTest
  | declared, name => testOf (lookupName hasDefault name)
  | anyNamespace, name =>
    if name.qualifier.isNone then .anywhere name.localPart else testOf name

/-- Whether names on a way are read so. In declared namespaces they are if none gets a second
prefix, and in any namespace if there is one without a prefix. -/
def applies (hasDefault : Bool) (steps : List (QName × Nat)) : Reading → Bool
  | declared => !(hasDefault && steps.any fun s => isMistaken s.1)
  | anyNamespace => steps.any (·.1.qualifier.isNone)

end Reading

/-- The node to which the way to an element leads. -/
def landingOf (d : Document) (r : Reading) (id : NodeId) : Option Node :=
  landing (lookupContext d)
    ((placeSteps d id).map fun s => (r.test (defaultUri d).isSome s.1, s.2)) rootNode

/-- **The nodes to which the place of a node leads.** -/
def reached (d : Document) (r : Reading) (n : Node) : List Node :=
  if r.applies (defaultUri d).isSome (placeSteps d n.owner) then
    (landingOf d r n.owner).elim [] fun m => (endingOf d n).nodes (lookupContext d) m
  else []

/-- The only node of a list. -/
def only? : List Node → Option Node
  | [n] => some n
  | _ => none

/-- **The node that is blamed for a finding at a node**: the only one that its place leads to, in
declared namespaces or else in any. -/
def blamed? (d : Document) (n : Node) : Option Node :=
  only? (reached d .declared n) <|> only? (reached d .anyNamespace n)

/-! ## Queries -/

/-- **The line that a path reports** is that of the only node that it finds. -/
theorem uniqueLine?_chars {k : Locator} {path : IndexedPath} (h : path.Legible)
    (hne : path.steps ≠ []) : k.uniqueLine? (String.ofList path.chars) =
      (only? (found (walk (lookupContext k.document) path.readSteps [rootNode]))).map
        (·.line k.document) := by
  rw [Locator.uniqueLine?]
  cases hwalk : walk (lookupContext k.document) path.readSteps [rootNode] with
  | ok ns =>
    rw [(select_chars h hne).2 hwalk]
    show _ = (only? ns).map _
    rcases ns with _ | ⟨m, _ | ⟨m', ns⟩⟩ <;> rfl
  | error fault =>
    cases hfail : k.select (String.ofList path.chars) with
    | ok ns =>
      rw [(select_chars h hne).1 hfail] at hwalk
      cases hwalk
    | error failure => rfl

/-- What is no path expression reports no line. -/
theorem uniqueLine?_unscannable {k : Locator} {path : String}
    (h : Unscannable false path.toList) : k.uniqueLine? path = none := by
  obtain ⟨fault, hfault⟩ := h 0
  have htokens : XPath.tokens path.toList = .error fault := hfault
  rw [Locator.uniqueLine?, Locator.select, XPath.Query.compile, XPath.Expr.parse, htokens]
  rfl

/-- What the steps of a place in a reading find. -/
theorem found_reached (hd : d.Sound) (hx : Expressible d n) (r : Reading) {path : IndexedPath}
    (hsteps : path.steps = (placeSteps d n.owner).map fun s =>
      (r.test (defaultUri d).isSome s.1, s.2 + 1))
    (hending : path.ending = endingOf d n) :
    found (walk (lookupContext d) path.readSteps [rootNode]) =
      (landingOf d r n.owner).elim [] fun m => (endingOf d n).nodes (lookupContext d) m := by
  have hshort : ∀ s ∈ (placeSteps d n.owner).map fun s =>
      (r.test (defaultUri d).isSome s.1, s.2), s.2 + 1 < 2 ^ 53 := by
    intro s hs
    obtain ⟨t, ht, rfl⟩ := List.mem_map.1 hs
    exact hx.positions hd t ht
  have hfound := @XPath.found_path (lookupContext d) rootNode hd hx.along_short _ hshort
    (endingOf d n)
  rw [List.map_map] at hfound
  rw [IndexedPath.readSteps, hsteps, hending, List.map_map]
  exact hfound

/-- **The place of a node looked up in declared namespaces** reports the line of the only node to
which it leads. -/
theorem uniqueLine?_declared (hd : d.Sound) (hx : Expressible d n)
    (hne : placeSteps d n.owner ≠ []) :
    (Locator.mk d true).uniqueLine? ((Locator.mk d true).translate (locationOf d n) true) =
      (only? (reached d .declared n)).map (·.line d) := by
  have hlegible := hx.legible
  have hpositions : ∀ s ∈ (placeOf d n).steps, s.2 + 1 < 2 ^ 64 := fun s hs =>
    Nat.lt_trans (hx.positions hd s hs) (by decide)
  have hdefault := hasDefaultNamespace_eq (d := d) true
  rw [locationOf_eq hne, reached]
  -- where a qualifier is mistaken for the name of a step, what is tried is no expression
  by_cases happlies : Reading.declared.applies (defaultUri d).isSome (placeSteps d n.owner) = true
  · have hqualifiers : (Locator.mk d true).hasDefaultNamespace → ∀ s ∈ (placeOf d n).steps,
        isMistaken s.1 = false := by
      intro htrue s hs
      rw [hdefault] at htrue
      rw [Reading.applies, htrue, Bool.true_and, Bool.not_eq_true', List.any_eq_false] at happlies
      exact Bool.eq_false_iff.2 (happlies s hs)
    have hpath : ((lookup (defaultUri d).isSome (placeOf d n)).path).steps ≠ [] := by
      rw [Place.path, steps_lookup]
      exact fun hnil => hne (List.map_eq_nil_iff.1 (List.map_eq_nil_iff.1 hnil))
    have hfound := @found_reached d n hd hx .declared
      (lookup (defaultUri d).isSome (placeOf d n)).path
      (by rw [Place.path, steps_lookup, List.map_map]; rfl)
      (by rw [Place.path, ending_lookup]; rfl)
    rw [translate_chars rfl hlegible hpositions hqualifiers, hdefault, Place.chars,
      uniqueLine?_chars (legible_lookup hlegible _).path hpath, hfound, if_pos happlies]
  · rw [if_neg happlies]
    simp only [Reading.applies, Bool.not_eq_true', Bool.not_eq_false, Bool.and_eq_true,
      List.any_eq_true] at happlies
    refine uniqueLine?_unscannable ?_
    refine unscannable_translate rfl ?_ hlegible hpositions happlies.2
    rw [hdefault]
    exact happlies.1

/-- **The same in any namespace**, which is only tried if there is a name without a prefix. -/
theorem uniqueLine?_anyNamespace (hd : d.Sound) (hx : Expressible d n)
    (hne : placeSteps d n.owner ≠ []) :
    (wildcardPath? ((Locator.mk d true).translate (locationOf d n) false)).bind
        (Locator.mk d true).uniqueLine? =
      (only? (reached d .anyNamespace n)).map (·.line d) := by
  have hlegible := hx.legible
  have hshifted := legible_shifted hlegible
  have hpositions : ∀ s ∈ (placeOf d n).steps, s.2 + 1 < 2 ^ 64 := fun s hs =>
    Nat.lt_trans (hx.positions hd s hs) (by decide)
  have htranslate : (Locator.mk d true).translate (String.ofList (placeOf d n).chars) false =
      String.ofList (shifted (placeOf d n)).chars := by
    rw [Locator.translate, if_pos rfl, shiftPositions_chars hlegible hpositions, Bool.false_and]
    rfl
  have hany : (shifted (placeOf d n)).steps.any (·.1.qualifier.isNone) =
      Reading.anyNamespace.applies (defaultUri d).isSome (placeSteps d n.owner) := by
    rw [shifted, List.any_map]
    rfl
  rw [locationOf_eq hne, reached, htranslate, wildcardPath?_chars hshifted, hany]
  by_cases happlies :
      Reading.anyNamespace.applies (defaultUri d).isSome (placeSteps d n.owner) = true
  · have hpath : (shifted (placeOf d n)).inAnyNamespace.steps ≠ [] := fun hnil =>
      hne (List.map_eq_nil_iff.1 (List.map_eq_nil_iff.1 hnil))
    have hfound := @found_reached d n hd hx .anyNamespace (shifted (placeOf d n)).inAnyNamespace
      (by rw [Place.inAnyNamespace, shifted, List.map_map]; rfl) rfl
    rw [if_pos happlies, if_pos happlies, Option.bind_some,
      uniqueLine?_chars hshifted.inAnyNamespace hpath, hfound]
  · rw [if_neg happlies, if_neg happlies]
    rfl

/-! ## Kinds of nodes -/

/-- A node is the root, an element or an attribute of one, or text in an element. -/
theorem node_cases (h : d.Sound) (hn : n.IsIn d) :
    n = rootNode ∨ (∃ e, d.element? n.owner = some e) ∨
      ∃ id p s, n = .tree id ∧ d.parent? id = some p ∧ d.element? id = none ∧
        d.text? id = some s ∧ ∃ e, d.element? p = some e := by
  cases n with
  | attr owner i =>
    right
    left
    have hattribute : (Node.attribute? d (.attr owner i)).isSome := hn
    rw [Node.attribute?, Option.isSome_bind, Option.any_eq_true] at hattribute
    obtain ⟨e, he, -⟩ := hattribute
    exact ⟨e, he⟩
  | tree id =>
    have hid : id < d.size := hn
    -- below the root there are only elements and texts, and no text is the document element
    rcases Nat.eq_zero_or_pos id with rfl | hpos
    · exact .inl rfl
    · obtain ⟨m, p, hm, hkind, -, hchild⟩ := h.inner id hpos hid
      have hp := h.child_iff.1 hchild
      cases hk : m.kind with
      | document => exact absurd hk hkind
      | element e => exact .inr (.inl ⟨e, Document.element?_eq_some_iff.2 ⟨m, hm, hk⟩⟩)
      | text s =>
        have htext : d.text? id = some s := Document.text?_eq_some_iff.2 ⟨m, hm, hk⟩
        have hnone : d.element? id = none := by
          cases he : d.element? id with
          | none => rfl
          | some e =>
            obtain ⟨m', hm', hk'⟩ := Document.element?_eq_some_iff.1 he
            rw [hm] at hm'
            cases hm'
            rw [hk] at hk'
            cases hk'
        refine .inr (.inr ⟨id, p, s, rfl, hp, hnone, htext, ?_⟩)
        rcases h.parent_cases hp with ⟨-, rfl⟩ | he
        · have helement := h.documentElement
          rw [Document.isElement, hnone] at helement
          cases helement
        · exact he

/-- The way to text is that to the element it is in. -/
theorem placeSteps_text (h : d.Sound) (he : d.element? id = none) (hp : d.parent? id = some p) :
    placeSteps d id = placeSteps d p := by
  rw [placeSteps, placeSteps, h.ancestors_eq hp, List.reverse_cons, List.filterMap_append]
  simp [placeStep?, he]

/-- Only the way to the root is empty. -/
theorem eq_rootNode (h : d.Sound) (hn : n.IsIn d) (hnil : placeSteps d n.owner = []) :
    n = rootNode := by
  rcases node_cases h hn with hroot | ⟨e, he⟩ | ⟨id, p, s, rfl, hp, hnone, -, e, he⟩
  · exact hroot
  · exact absurd hnil (placeSteps_ne_nil he)
  · exact absurd ((placeSteps_text h hnone hp).symm.trans hnil) (placeSteps_ne_nil he)

/-! ## Lines -/

/-- The place of the root leads to it. -/
theorem lineOf_root (h : d.Sound) :
    (Locator.mk d true).lineOf (locationOf d rootNode) = rootNode.line d := by
  have hancestors : d.ancestors Document.root = [] := rfl
  have hlocation : locationOf d rootNode = "/" := by
    simp [locationOf, Schematron.elementPath, Schematron.stepOf, Schematron.lastStep, rootNode,
      Node.owner, hancestors, h.element?_root, h.parent?_root, String.join]
  have hshift : shiftPositions "/" = "/" := by cbv
  have hprefixed : Text.replaceMatches defaultPrefixRule "/" = "/" := by cbv
  have htranslate : (Locator.mk d true).translate "/" true = "/" := by
    rw [Locator.translate, if_pos rfl, hshift]
    simp only
    rw [hprefixed, ite_self]
  have hparse : XPath.Expr.parse "/" = .ok (.path true []) := by cbv
  have hselect : (Locator.mk d true).select "/" = .ok [rootNode] := by
    rw [Locator.select, XPath.Query.compile, hparse]
    show XPath.Query.select (lookupContext d) ⟨"/", .path true []⟩ rootNode = _
    rw [XPath.Query.select_eq_ok, XPath.Expr.eval, walk]
    rfl
  rw [Locator.lineOf, hlocation, htranslate, Locator.uniqueLine?, hselect]

theorem endingOf_root (h : d.Sound) : endingOf d rootNode = .element := by
  simp [endingOf, rootNode, h.parent?_root]

theorem blamed?_root (h : d.Sound) : blamed? d rootNode = some rootNode := by
  have hsteps : placeSteps d rootNode.owner = [] := placeSteps_root h
  have hending := endingOf_root h
  have hreached : reached d .declared rootNode = [rootNode] := by
    rw [reached, landingOf, hsteps, hending, Reading.applies, List.any_nil, Bool.and_false]
    rfl
  rw [blamed?, hreached]
  rfl

/-- **The line that is reported for the place of a node** is that of the node that is blamed. -/
theorem lineOf_eq (h : d.Sound) (hx : Expressible d n) (hn : n.IsIn d) :
    (Locator.mk d true).lineOf (locationOf d n) = ((blamed? d n).map (·.line d)).getD 0 := by
  by_cases hnil : placeSteps d n.owner = []
  · obtain rfl := eq_rootNode h hn hnil
    rw [lineOf_root h, blamed?_root h]
    rfl
  · rw [Locator.lineOf, uniqueLine?_declared h hx hnil, uniqueLine?_anyNamespace h hx hnil, blamed?]
    cases only? (reached d .declared n) <;> rfl

end XmlAudit.Location
