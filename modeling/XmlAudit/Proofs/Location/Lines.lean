import XmlAudit.Proofs.Location.Readings

/-!
# The lines that lookups report

* `Faithful`: the step of an element asks for the siblings of its name, or for none.
* `Alike`: an element has the name and the namespace of its siblings of the same local name.
* `line_of_faithful`: where steps are faithful, no node on another line is blamed.
* `lineOf_location`: what a lookup reports for the place of a node.
-/

namespace XmlAudit.Location

open Schematron (positionOf locationOf)
open Xml (Document NodeId QName Element)
open XPath (Node Ending NameTest passing landing)

variable {d : Document} {id p : NodeId} {e : Element} {n : Node}

/-! ## Faithful steps -/

/-- Whether the step of an element asks for a node. -/
def asksFor (d : Document) (r : Reading) (name : QName) (i : NodeId) : Bool :=
  (Node.tree i).passes (lookupContext d) .child (.named (r.test (defaultUri d).isSome name))

/-- **The step of an element is faithful**: it asks for the siblings of that name, or for none. -/
def Faithful (d : Document) (r : Reading) (id : NodeId) : Prop :=
  ∀ e ∈ d.element? id, ∀ p ∈ d.parent? id,
    (∀ i ∈ d.children p,
      asksFor d r e.name i = decide ((d.element? i).map (·.name) = some e.name)) ∨
    ∀ i ∈ d.children p, asksFor d r e.name i = false

/-- **An element is written like its siblings**: those of its local name have its prefix and are in
its namespace. -/
def Alike (d : Document) (id : NodeId) : Prop :=
  ∀ e ∈ d.element? id, ∀ p ∈ d.parent? id, ∀ i ∈ d.children p, ∀ e' ∈ d.element? i,
    e'.name.localPart = e.name.localPart → e'.name = e.name ∧ e'.uri = e.uri

instance : Decidable (Alike d id) :=
  inferInstanceAs (Decidable (∀ e ∈ d.element? id, ∀ p ∈ d.parent? id, ∀ i ∈ d.children p,
    ∀ e' ∈ d.element? i, e'.name.localPart = e.name.localPart → e'.name = e.name ∧ e'.uri = e.uri))

variable {r : Reading}

/-- Whether a step asks for a node depends on its name and namespace. -/
theorem asksFor_eq {name : QName} (he : d.element? id = some e) : asksFor d r name id =
    ((r.test (defaultUri d).isSome name).accepts (.ofDocument d false) e.name.localPart
      e.uri).toOption.getD false := by
  have hne : XPath.Axis.child ≠ .attributes := by decide
  have hdocument : (lookupContext d).document = d := rfl
  rw [asksFor, Node.passes, Node.satisfies, hdocument, he]
  simp only [if_neg hne]
  rfl

/-- The test for a name passes its local part only. -/
theorem localPart_of_accepts {hasDefault : Bool} {name : QName} {ns : Xml.Namespaces} {l : String}
    {uri : Option String} (h : (r.test hasDefault name).accepts ns l uri = .ok true) :
    l = name.localPart := by
  -- however names are read, the test keeps the local part
  have htest : r.test hasDefault name = .anywhere name.localPart ∨
      ∃ q, r.test hasDefault name = .name q name.localPart := by
    cases r with
    | declared =>
      right
      rw [Reading.test, lookupName, inDefault]
      split
      · split
        · exact ⟨_, rfl⟩
        · exact ⟨_, rfl⟩
      · exact ⟨_, rfl⟩
    | anyNamespace =>
      rw [Reading.test]
      split
      · exact .inl rfl
      · exact .inr ⟨_, rfl⟩
  rcases htest with htest | ⟨q, htest⟩
  · rw [htest] at h
    simpa [NameTest.accepts, eq_comm] using h
  · rw [htest] at h
    cases q with
    | none =>
      have hboth : name.localPart = l ∧ uri = none := by simpa [NameTest.accepts] using h
      exact hboth.1.symm
    | some q =>
      obtain ⟨u, -, hu⟩ := map_eq_ok.1 h
      have hboth : name.localPart = l ∧ uri = some u := by simpa using hu
      exact hboth.1.symm

/-- No step asks for an element of another local name. -/
theorem localPart_of_asksFor {name : QName} (h : asksFor d r name id) :
    ∃ e, d.element? id = some e ∧ e.name.localPart = name.localPart := by
  cases he : d.element? id with
  | none =>
    have hdocument : (lookupContext d).document = d := rfl
    rw [asksFor, Node.passes, Node.satisfies, hdocument, he] at h
    cases h
  | some e =>
    rw [asksFor_eq he] at h
    have haccepts : (r.test (defaultUri d).isSome name).accepts (.ofDocument d false)
        e.name.localPart e.uri = .ok true := by
      cases htest : (r.test (defaultUri d).isSome name).accepts (.ofDocument d false)
          e.name.localPart e.uri with
      | error fault =>
        rw [htest] at h
        cases h
      | ok b =>
        rw [htest] at h
        exact congrArg Except.ok h
    exact ⟨e, rfl, localPart_of_accepts haccepts⟩

/-- **Where elements are written like their siblings, their steps are faithful.** -/
theorem Alike.faithful (ha : Alike d id) (r : Reading) : Faithful d r id := by
  intro e he p hp
  have hsame : ∀ i ∈ d.children p, ∀ e' ∈ d.element? i, e'.name.localPart = e.name.localPart →
      asksFor d r e.name i = asksFor d r e.name id := by
    intro i hi e' he' hlocal
    obtain ⟨hname, huri⟩ := ha e he p hp i hi e' he' hlocal
    rw [asksFor_eq he', asksFor_eq he, hname, huri]
  by_cases hself : asksFor d r e.name id = true
  · left
    intro i hi
    rw [Bool.eq_iff_iff, decide_eq_true_eq]
    constructor
    · intro hasks
      obtain ⟨e', he', hlocal⟩ := localPart_of_asksFor hasks
      rw [he', Option.map_some, (ha e he p hp i hi e' he' hlocal).1]
    · intro hname
      obtain ⟨e', he', heq⟩ := Option.map_eq_some_iff.1 hname
      rw [hsame i hi e' he' (by rw [heq]), hself]
  · right
    intro i hi
    rw [Bool.eq_false_iff]
    intro hasks
    obtain ⟨e', he', hlocal⟩ := localPart_of_asksFor hasks
    rw [hsame i hi e' he' hlocal] at hasks
    exact hself hasks

/-- **A faithful step leads from the parent of an element to it**, or nowhere. -/
theorem step_faithful (h : d.Sound) (hf : Faithful d r id) (he : d.element? id = some e)
    (hp : d.parent? id = some p) :
    ∀ m ∈ (passing (lookupContext d) .child (.named (r.test (defaultUri d).isSome e.name))
      (.tree p))[positionOf d id e.name]?, m = .tree id := by
  have hpassing : passing (lookupContext d) .child (.named (r.test (defaultUri d).isSome e.name))
      (.tree p) = ((d.children p).filter (asksFor d r e.name)).map .tree := List.filter_map
  rw [hpassing, List.getElem?_map]
  rcases hf e he p hp with hall | hnone
  · have hfilter : (d.children p).filter (asksFor d r e.name) = (d.children p).filter fun i =>
        decide ((d.element? i).map (·.name) = some e.name) := List.filter_congr hall
    rw [hfilter, getElem?_positionOf h he hp]
    rintro m hm
    cases hm
    rfl
  · have hfilter : (d.children p).filter (asksFor d r e.name) = [] :=
      List.filter_eq_nil_iff.2 fun i hi => Bool.eq_false_iff.1 (hnone i hi)
    rw [hfilter]
    rintro m hm
    cases hm

/-- **Faithful steps lead to the element of a place**, or nowhere. -/
theorem landingOf_faithful (h : d.Sound) (hid : id = Document.root ∨ ∃ e, d.element? id = some e)
    (hf : ∀ i ∈ id :: d.ancestors id, Faithful d r i) :
    ∀ m ∈ landingOf d r id, m = .tree id := by
  -- by induction on the index: a parent comes before its children
  induction id using Nat.strongRecOn with
  | _ id ih =>
    rcases hid with rfl | ⟨e, he⟩
    · rw [landingOf, placeSteps_root h]
      rintro m hm
      cases hm
      rfl
    · obtain ⟨p, hp⟩ := h.exists_parent he
      have hparent : p = Document.root ∨ ∃ e, d.element? p = some e :=
        (h.parent_cases hp).imp And.left fun he => he
      rw [h.ancestors_eq hp] at hf
      obtain ⟨hself, hparents⟩ := List.forall_mem_cons.1 hf
      have hlanding := ih p (h.parent_lt hp) hparent hparents
      have hstep := step_faithful h hself he hp
      rw [landingOf, placeSteps_eq h he hp, List.map_append, landing, List.foldlM_append]
      rintro m hm
      obtain ⟨m', hm', hm⟩ := Option.bind_eq_some_iff.1 hm
      obtain rfl := hlanding m' hm'
      obtain ⟨m'', hm'', hm⟩ := Option.bind_eq_some_iff.1 hm
      cases hm
      exact hstep _ hm''

/-! ## Lines of nodes -/

theorem mem_of_only? {ns : List Node} {m : Node} (h : only? ns = some m) : ns = [m] := by
  match ns with
  | [] => cases h
  | [m'] => cases h; rfl
  | _ :: _ :: _ => cases h

theorem exists_landing {m : Node} (hm : m ∈ reached d r n) : ∃ m',
    landingOf d r n.owner = some m' ∧ m ∈ (endingOf d n).nodes (lookupContext d) m' := by
  rw [reached] at hm
  split at hm
  · cases hlanding : landingOf d r n.owner with
    | none =>
      rw [hlanding] at hm
      cases hm
    | some m' =>
      rw [hlanding] at hm
      exact ⟨m', rfl, hm⟩
  · cases hm

/-- What is reached from the element of a place has its line, unless it is text. -/
theorem line_of_nodes {ending : Ending} (hending : ending ≠ .text) {m : Node}
    (hm : m ∈ ending.nodes (lookupContext d) (.tree id)) : m.line d = d.line id := by
  cases ending with
  | element =>
    obtain rfl := List.mem_singleton.1 hm
    rfl
  | attr name =>
    obtain ⟨halong, -⟩ := List.mem_filter.1 hm
    have hattributes : m ∈ Node.alongFromTree d id .attributes := halong
    rw [Node.alongFromTree] at hattributes
    split at hattributes
    · obtain ⟨j, -, rfl⟩ := List.mem_map.1 hattributes
      rfl
    · cases hattributes
  | text => exact absurd rfl hending

/-- **Where the steps of a place are faithful, it is not another node that is blamed**, unless it is
on the same line: an attribute of the same element. -/
theorem line_of_faithful (h : d.Sound) (hn : n.IsIn d)
    (hf : ∀ i ∈ n.owner :: d.ancestors n.owner, Faithful d r i) :
    ∀ m ∈ only? (reached d r n), m.line d = n.line d := by
  intro m hm
  have hreached := mem_of_only? hm
  obtain ⟨m', hlanding, hmem⟩ := exists_landing (hreached ▸ List.mem_singleton_self m)
  -- the steps to text end at the element that it is in, those to other nodes at the node or its owner
  rcases node_cases h hn with rfl | ⟨e, he⟩ | ⟨id, p, s, rfl, hp, hnone, htext, e, he⟩
  · obtain rfl := landingOf_faithful h (.inl rfl) hf m' hlanding
    rw [endingOf_root h] at hmem
    exact line_of_nodes (by simp) hmem
  · obtain rfl := landingOf_faithful h (.inr ⟨e, he⟩) hf m' hlanding
    have hending : endingOf d n ≠ .text := by
      cases n with
      | tree id =>
        have he' : d.element? id = some e := he
        simp [endingOf, Document.isElement, he']
      | attr owner i =>
        rw [endingOf]
        cases Node.attribute? d (.attr owner i) <;> simp
    exact line_of_nodes hending hmem
  · -- of the text in the element that the steps lead to there is one, and so this one
    have howner : (Node.tree id).owner = id := rfl
    rw [howner, h.ancestors_eq hp] at hf
    have hparents := (List.forall_mem_cons.1 hf).2
    have hsteps := placeSteps_text h hnone hp
    have hsame : landingOf d r id = landingOf d r p := by rw [landingOf, landingOf, hsteps]
    rw [howner, hsame] at hlanding
    obtain rfl := landingOf_faithful h (.inr ⟨e, he⟩) hparents m' hlanding
    have hending : endingOf d (.tree id) = .text := by
      simp [endingOf, Document.isElement, hnone, hp]
    have hpasses : (Node.tree id).passes (lookupContext d) .child .text = true := by
      have hdocument : (lookupContext d).document = d := rfl
      rw [Node.passes, Node.satisfies, hdocument, htext]
      rfl
    have htext : Node.tree id ∈ passing (lookupContext d) .child .text (.tree p) :=
      List.mem_filter.2 ⟨List.mem_map_of_mem (h.child_iff.2 hp), hpasses⟩
    have hall : reached d r (.tree id) = passing (lookupContext d) .child .text (.tree p) := by
      rw [reached] at hreached ⊢
      split at hreached
      · next happlies =>
        rw [if_pos happlies, howner, hsame, hlanding, hending]
        rfl
      · cases hreached
    rw [← hall, hreached] at htext
    rw [List.mem_singleton.1 htext]

/-! ## Reports -/

/-- **What a lookup reports for the place of a node.**

* It is the line of the node that is blamed, and 0 if there is none.
* A reading in which the steps of the place are faithful does not blame a node on another line.
* So the line is that of the node or 0, where the elements on the way to it are written like their
  siblings of the same local name. -/
theorem lineOf_location {bytes : List UInt8} (hd : Document.parse bytes = .ok d)
    (hn : n.IsIn d) (hx : Expressible d n) :
    let line := (Locator.mk d true).lineOf (locationOf d n)
    line = ((blamed? d n).map (·.line d)).getD 0 ∧
    (∀ r, (∀ i ∈ n.owner :: d.ancestors n.owner, Faithful d r i) →
      ∀ m ∈ only? (reached d r n), m.line d = n.line d) ∧
    ((∀ i ∈ n.owner :: d.ancestors n.owner, Alike d i) → line = 0 ∨ line = n.line d) := by
  intro line
  have h := Document.parse_sound hd
  have hline := lineOf_eq h hx hn
  refine ⟨hline, fun r hf => line_of_faithful h hn hf, fun ha => ?_⟩
  have hfaithful : ∀ r, ∀ m ∈ only? (reached d r n), m.line d = n.line d := fun r =>
    line_of_faithful h hn fun i hi => (ha i hi).faithful r
  rw [blamed?] at hline
  -- names are first read as declared, and in any namespace if that leads to no single node
  cases hdeclared : only? (reached d .declared n) with
  | some m =>
    rw [hdeclared] at hline
    exact .inr (hline.trans (hfaithful .declared m hdeclared))
  | none =>
    rw [hdeclared] at hline
    cases hany : only? (reached d .anyNamespace n) with
    | some m =>
      rw [hany] at hline
      exact .inr (hline.trans (hfaithful .anyNamespace m hany))
    | none =>
      rw [hany] at hline
      exact .inl hline

/-- Of two elements of one name of which the first one redeclares the default namespace, both are
reported on the line of the second one; the text between them is on its own line. -/
theorem lineOf_location_redeclared :
    ∃ d, Document.parse "<r><a xmlns=\"c\"/>\n<a/></r>".toUTF8.toList = .ok d ∧
      (Locator.mk d true).lineOf (locationOf d (.tree 2)) = 2 ∧ (Node.tree 2).line d = 1 ∧
      (Locator.mk d true).lineOf (locationOf d (.tree 4)) = 2 ∧ (Node.tree 4).line d = 2 ∧
      (Locator.mk d true).lineOf (locationOf d (.tree 3)) = 2 ∧ (Node.tree 3).line d = 2 := by
  obtain ⟨d, hd, hn, hx, hblamed, hlines, halike⟩ :
      ∃ d, Document.parse "<r><a xmlns=\"c\"/>\n<a/></r>".toUTF8.toList = .ok d ∧
        (2 < d.size ∧ 4 < d.size ∧ 3 < d.size) ∧
        (Expressible d (.tree 2) ∧ Expressible d (.tree 4) ∧ Expressible d (.tree 3)) ∧
        (blamed? d (.tree 2) = some (.tree 4) ∧ blamed? d (.tree 4) = some (.tree 4) ∧
          blamed? d (.tree 3) = some (.tree 3)) ∧
        ((Node.tree 2).line d = 1 ∧ (Node.tree 4).line d = 2 ∧ (Node.tree 3).line d = 2) ∧
        ∀ i ∈ 3 :: d.ancestors 3, Alike d i := by
    refine ⟨.ofTree (.element 1 ⟨⟨none, "r"⟩, none, [], []⟩
      [.element 1 ⟨⟨none, "a"⟩, some "c", [], [(none, "c")]⟩ [], .text 2 "\n",
        .element 2 ⟨⟨none, "a"⟩, none, [], []⟩ []]), ?_, ?_⟩
    · exact Document.parse_eq_ok_of_nodes (by decide +kernel)
    · decide +kernel
  obtain ⟨hline₂, hline₄, hline₃⟩ := hlines
  have hfirst := (@lineOf_location d (.tree 2) _ hd hn.1 hx.1).1
  have hsecond := (@lineOf_location d (.tree 4) _ hd hn.2.1 hx.2.1).1
  obtain ⟨htext, -, hown⟩ := @lineOf_location d (.tree 3) _ hd hn.2.2 hx.2.2
  rw [hblamed.1] at hfirst
  rw [hblamed.2.1] at hsecond
  rw [hblamed.2.2] at htext
  have hfound : (Locator.mk d true).lineOf (locationOf d (.tree 3)) ≠ 0 := by
    intro hzero
    exact absurd (hline₃.symm.trans (htext.symm.trans hzero)) (by decide)
  exact ⟨d, hd, hfirst.trans hline₄, hline₂, hsecond.trans hline₄, hline₄,
    ((hown halike).resolve_left hfound).trans hline₃, hline₃⟩

end XmlAudit.Location
