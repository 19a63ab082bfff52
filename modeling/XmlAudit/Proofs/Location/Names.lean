import XmlAudit.Proofs.Location.Rewriting
import XmlAudit.Proofs.Xml.Numbering
import XmlAudit.Proofs.Xml.Scope

/-!
# Names in documents that declare namespaces once

* `Addressable`: all namespaces are declared on the document element, each under one prefix.
* `Bound`: the namespace of a name under a list of declarations.
* `Bound.qualifier_eq`: names of the same namespace are written with the same prefix.
* `accepts_element`, `accepts_attribute`: which names pass the test for the name of a node.
-/

namespace XmlAudit.Location

open Xml (Document NodeId Namespaces Declaration QName Element)
open Xml.Document (documentElement)
open XPath (IsQName IsToken isQName_iff testOf NameTest)

/-! ## Documents -/

/-- **A document in which places can be looked up.** All declarations are made on the document
element. They bind distinct namespaces, neither the empty one nor that of `xml`, to prefixes that
may stand in a step, of which none is `default`. Every name is read as one token of an expression,
and no node has more children than doubles can count. -/
structure Addressable (d : Document) : Prop where
  inner : ∀ id, id ≠ documentElement → d.declarations id = []
  distinct : ((d.declarations documentElement).map (·.2)).Nodup
  proper : ∀ b ∈ d.declarations documentElement, b.2 ≠ "" ∧ b.2 ≠ Xml.xmlNamespace
  prefixes : ∀ b ∈ d.declarations documentElement, ∀ q ∈ b.1,
    q ≠ Namespaces.defaultPrefix ∧ ∀ c ∈ q.toList, isStepChar c
  elements : ∀ id e, d.element? id = some e → IsToken e.name
  attributes : ∀ id e, d.element? id = some e → ∀ a ∈ e.attributes, IsToken a.name
  narrow : ∀ id, (d.children id).length < 2 ^ 53

/-- Only the nodes that there are matter. -/
theorem addressable_iff {d : Document} : Addressable d ↔
    (∀ id < d.size, id ≠ documentElement → d.declarations id = []) ∧
    ((d.declarations documentElement).map (·.2)).Nodup ∧
    (∀ b ∈ d.declarations documentElement, b.2 ≠ "" ∧ b.2 ≠ Xml.xmlNamespace) ∧
    (∀ b ∈ d.declarations documentElement, ∀ q ∈ b.1,
      q ≠ Namespaces.defaultPrefix ∧ ∀ c ∈ q.toList, isStepChar c) ∧
    (∀ id < d.size, ∀ e ∈ d.element? id, IsToken e.name ∧ ∀ a ∈ e.attributes, IsToken a.name) ∧
    ∀ id < d.size, (d.children id).length < 2 ^ 53 := by
  constructor
  · intro h
    exact ⟨fun id _ => h.inner id, h.distinct, h.proper, h.prefixes,
      fun id _ e he => ⟨h.elements id e he, h.attributes id e he⟩, fun id _ => h.narrow id⟩
  · rintro ⟨hinner, hdistinct, hproper, hprefixes, hnames, hnarrow⟩
    -- an index out of range has neither declarations nor children
    have hin : ∀ {id e}, d.element? id = some e → id < d.size := Document.lt_size_of_element?
    refine ⟨fun id hne => ?_, hdistinct, hproper, hprefixes, fun id e he => (hnames id (hin he) e he).1,
      fun id e he => (hnames id (hin he) e he).2, fun id => ?_⟩
    · rcases Nat.lt_or_ge id d.size with hid | hid
      · exact hinner id hid hne
      · rw [Document.declarations]
        cases he : d.element? id with
        | none => rfl
        | some e => exact absurd (hin he) (Nat.not_lt.2 hid)
    · rcases Nat.lt_or_ge id d.size with hid | hid
      · exact hnarrow id hid
      · rw [Document.children_eq_nil hid]
        decide

instance {d : Document} : Decidable (Addressable d) := decidable_of_iff _ addressable_iff.symm

/-- The namespace of unprefixed elements. -/
def defaultUri (d : Document) : Option String :=
  (d.declarations documentElement).reverse.lookup none

/-! ## Declarations -/

/-- A namespace is declared under one qualifier. -/
theorem qualifier_unique {l : List Declaration} {k k' : Option String} {u : String}
    (hl : (l.map (·.2)).Nodup) (h : (k, u) ∈ l) (h' : (k', u) ∈ l) : k = k' := by
  have := List.inj_on_of_nodup_map hl h h' rfl
  exact congrArg (·.1) this

section

variable {d : Document} {id p : NodeId} {e : Element}

/-- **In every element the same declarations are in force.** -/
theorem inScope_element (h : d.Sound) (ha : Addressable d) (he : d.element? id = some e) :
    d.inScope id = (d.declarations documentElement).reverse := by
  -- by induction on the index: only the document element declares anything
  induction id using Nat.strongRecOn generalizing e with
  | _ id ih =>
    obtain ⟨p, hp⟩ := h.exists_parent he
    rw [h.inScope_eq hp]
    rcases h.parent_cases hp with ⟨rfl, rfl⟩ | ⟨e', he'⟩
    · rw [h.inScope_root, List.append_nil]
    · have hne : id ≠ documentElement := by
        rintro rfl
        have hlt := h.parent_lt hp
        have hroot : p = Document.root := Nat.lt_one_iff.1 hlt
        rw [hroot, h.element?_root] at he'
        cases he'
      rw [ha.inner id hne, ih p (h.parent_lt hp) he']
      rfl

/-! ## Names -/

/-- **The namespace of a name** under declarations: that of its qualifier, or else `default`. -/
def Bound (ds : List Declaration) (default : Option String) (n : QName) (uri : Option String) :
    Prop :=
  (n.qualifier = none ∧ uri = default) ∨
    (n.qualifier = some "xml" ∧ uri = some Xml.xmlNamespace) ∨
    ∃ q u, n.qualifier = some q ∧ q ≠ "xml" ∧ (some q, u) ∈ ds ∧ uri = some u

theorem bound_of_resolveQualifier {ds : List Declaration} {default : Option String} {n : QName}
    {q u : String} (hn : n.qualifier = some q) (h : Xml.resolveQualifier ds.reverse q = .ok u) :
    Bound ds default n (some u) := by
  unfold Xml.resolveQualifier at h
  split at h
  · next hxml =>
    cases h
    exact .inr (.inl ⟨by rw [hn, hxml], rfl⟩)
  · next hxml =>
    split at h
    · next uri hl =>
      cases h
      exact .inr (.inr ⟨q, u, hn, hxml, List.mem_reverse.1 (mem_of_lookup hl), rfl⟩)
    · cases h

theorem mem_of_defaultUri {u : String} (h : defaultUri d = some u) :
    (none, u) ∈ d.declarations documentElement :=
  List.mem_reverse.1 (mem_of_lookup h)

theorem bound_element (h : d.Sound) (ht : d.Tidy) (ha : Addressable d)
    (he : d.element? id = some e) :
    Bound (d.declarations documentElement) (defaultUri d) e.name e.uri := by
  have huri := (ht.resolved id e he).uri
  rw [inScope_element h ha he] at huri
  unfold Xml.elementUri at huri
  split at huri
  · next q hq =>
    obtain ⟨u, hu, heq⟩ := map_eq_ok.1 huri
    rw [← heq]
    exact bound_of_resolveQualifier hq hu
  · next hq =>
    refine .inl ⟨hq, ?_⟩
    rw [← Except.ok.inj huri]
    -- no declaration makes the empty namespace the default one
    show (defaultUri d).filter (· ≠ "") = defaultUri d
    cases hd : defaultUri d with
    | none => rfl
    | some u => exact Option.filter_some_pos (by simpa using (ha.proper _ (mem_of_defaultUri hd)).1)

theorem bound_attribute (h : d.Sound) (ht : d.Tidy) (ha : Addressable d)
    (he : d.element? id = some e) {a : Xml.Attribute} (hmem : a ∈ e.attributes) :
    Bound (d.declarations documentElement) none a.name a.uri := by
  have huri := (ht.resolved id e he).attributes a hmem
  rw [inScope_element h ha he] at huri
  unfold Xml.attributeUri at huri
  split at huri
  · next q hq =>
    obtain ⟨u, hu, heq⟩ := map_eq_ok.1 huri
    rw [← heq]
    exact bound_of_resolveQualifier hq hu
  · next hq =>
    exact .inl ⟨hq, (Except.ok.inj huri).symm⟩

/-- All bindings in force: the declarations and that of `xml`. -/
def bindings (d : Document) : List Declaration :=
  (some "xml", Xml.xmlNamespace) :: d.declarations documentElement

/-- No namespace has two prefixes. -/
theorem bindings_distinct (ha : Addressable d) : ((bindings d).map (·.2)).Nodup := by
  rw [bindings, List.map_cons, List.nodup_cons]
  refine ⟨fun hmem => ?_, ha.distinct⟩
  obtain ⟨b, hb, heq⟩ := List.mem_map.1 hmem
  exact (ha.proper b hb).2 heq

theorem Bound.mem_bindings {default : Option String} {n : QName} {u : String}
    (hdefault : ∀ u ∈ default, (none, u) ∈ d.declarations documentElement)
    (h : Bound (d.declarations documentElement) default n (some u)) :
    (n.qualifier, u) ∈ bindings d := by
  rcases h with ⟨hq, hu⟩ | ⟨hq, hu⟩ | ⟨q, u', hq, -, hmem, hu⟩
  · rw [hq]
    exact List.mem_cons_of_mem _ (hdefault u hu.symm)
  · cases hu
    rw [hq]
    exact List.mem_cons_self
  · cases hu
    rw [hq]
    exact List.mem_cons_of_mem _ hmem

theorem Bound.qualifier_eq_none {ds : List Declaration} {default : Option String} {n : QName}
    (h : Bound ds default n none) : n.qualifier = none := by
  rcases h with ⟨hq, -⟩ | ⟨-, hu⟩ | ⟨q, u, -, -, -, hu⟩
  · exact hq
  · cases hu
  · cases hu

theorem Bound.uri_of_qualifier_none {ds : List Declaration} {default : Option String} {n : QName}
    {uri : Option String} (h : Bound ds default n uri) (hq : n.qualifier = none) :
    uri = default := by
  rcases h with ⟨-, hu⟩ | ⟨hn, -⟩ | ⟨q, u, hn, -⟩
  · exact hu
  · rw [hq] at hn
    cases hn
  · rw [hq] at hn
    cases hn

/-- **Names of one namespace are written with one prefix.** -/
theorem Bound.qualifier_eq {default : Option String} {n n' : QName} {uri : Option String}
    (ha : Addressable d)
    (hdefault : ∀ u ∈ default, (none, u) ∈ d.declarations documentElement)
    (h : Bound (d.declarations documentElement) default n uri)
    (h' : Bound (d.declarations documentElement) default n' uri) : n.qualifier = n'.qualifier := by
  cases uri with
  | none => rw [h.qualifier_eq_none, h'.qualifier_eq_none]
  | some u =>
    exact qualifier_unique (bindings_distinct ha) (h.mem_bindings hdefault)
      (h'.mem_bindings hdefault)

/-- **One prefix stands for one namespace.** -/
theorem Bound.uri_eq {ds : List Declaration} {default : Option String} {n n' : QName}
    {uri uri' : Option String} (hds : (ds.map (·.1)).Nodup) (h : Bound ds default n uri)
    (h' : Bound ds default n' uri') (hq : n.qualifier = n'.qualifier) : uri = uri' := by
  rcases h with ⟨hn, hu⟩ | ⟨hn, hu⟩ | ⟨q, u, hn, hne, hmem, hu⟩ <;>
    rcases h' with ⟨hn', hu'⟩ | ⟨hn', hu'⟩ | ⟨q', u', hn', hne', hmem', hu'⟩ <;>
    rw [hn, hn'] at hq <;> cases hq
  · rw [hu, hu']
  · rw [hu, hu']
  · exact absurd rfl hne'
  · exact absurd rfl hne
  · rw [hu, hu', Xml.uri_unique hds hmem hmem']

/-! ## Tables -/

/-- The prefix under which a declaration is entered. -/
def enteredAs (b : Declaration) : String × String := (b.1.getD Namespaces.defaultPrefix, b.2)

/-- A table of declarations of which at most one is a default one. -/
theorem foldl_addDeclaration {l : List Declaration} {n : Namespaces} (hl : (l.map (·.1)).Nodup)
    (hkeys : some Namespaces.defaultPrefix ∉ l.map (·.1))
    (hdefault : none ∈ l.map (·.1) → n.default? = none) :
    (l.foldl Namespaces.addDeclaration n).uris = (l.map enteredAs).reverse ++ n.uris := by
  induction l generalizing n with
  | nil => rfl
  | cons b l ih =>
    rw [List.map_cons, List.nodup_cons] at hl
    rw [List.map_cons, List.mem_cons, not_or] at hkeys
    rw [List.foldl_cons]
    obtain ⟨q, u⟩ := b
    -- the default one is entered under a prefix that no other declaration has
    cases q with
    | none =>
      have hnone := hdefault List.mem_cons_self
      rw [ih hl.2 hkeys.2 fun hmem => absurd hmem hl.1]
      simp [Namespaces.addDeclaration, hnone, Namespaces.declare, enteredAs]
    | some p =>
      have hne : p ≠ Namespaces.defaultPrefix := by
        rintro rfl
        exact hkeys.1 rfl
      rw [ih hl.2 hkeys.2]
      · simp [Namespaces.addDeclaration, Namespaces.declare, enteredAs]
      · intro hmem
        have h := hdefault (List.mem_cons_of_mem _ hmem)
        have hbeq : (Namespaces.defaultPrefix == p) = false := by simpa using Ne.symm hne
        show List.lookup Namespaces.defaultPrefix ((p, u) :: n.uris) = none
        rw [List.lookup_cons, hbeq]
        exact h

theorem defaultPrefix_not_mem (ha : Addressable d) :
    some Namespaces.defaultPrefix ∉ (d.declarations documentElement).map (·.1) := by
  intro hmem
  obtain ⟨b, hb, hq⟩ := List.mem_map.1 hmem
  exact (ha.prefixes b hb _ hq).1 rfl

theorem uris_ofDocument (ht : d.Tidy) (ha : Addressable d) :
    (Namespaces.ofDocument d false).uris =
      ((d.declarations documentElement).map enteredAs).reverse := by
  have hfold := foldl_addDeclaration (n := Namespaces.empty) (ht.declared_nodup documentElement)
    (defaultPrefix_not_mem ha) fun _ => rfl
  have hnodes : Namespaces.ofDocument d false =
      (d.declarations documentElement).foldl Namespaces.addDeclaration Namespaces.empty := by
    rw [Namespaces.ofDocument, Namespaces.ofNodes]
    simp [Document.declarations]
  rw [hnodes, hfold]
  exact List.append_nil _

/-- **What a prefix stands for in an expression**: what it is declared to stand for. -/
theorem uri?_ofDocument (ht : d.Tidy) (ha : Addressable d) {q : Option String} {u : String}
    (hq : q ≠ some "") (hmem : (q, u) ∈ d.declarations documentElement) :
    (Namespaces.ofDocument d false).uri? (some (q.getD Namespaces.defaultPrefix)) = some u := by
  have hne : q.getD Namespaces.defaultPrefix ≠ "" := by
    cases q with
    | none => decide
    | some p => exact fun h => hq (congrArg some h)
  rw [Namespaces.uri?, if_neg hne, uris_ofDocument ht ha]
  have hentered : enteredAs (q, u) ∈ (d.declarations documentElement).map enteredAs :=
    List.mem_map_of_mem hmem
  have hdeclared : ∀ {k : Option String} {v : String}, (k, v) ∈ d.declarations documentElement →
      ∀ p, k = some p → p ≠ Namespaces.defaultPrefix :=
    fun h p hk => (ha.prefixes _ h p hk).1
  refine lookup_of_unique (List.mem_reverse.2 hentered) ?_
  intro u' hu'
  obtain ⟨⟨q', _⟩, hb, heq⟩ := List.mem_map.1 (List.mem_reverse.1 hu')
  obtain ⟨hkey, rfl⟩ := Prod.mk.inj heq
  -- an entry under `default` is the default declaration, as no prefix has that name
  have hsame : q' = q := by
    cases q with
    | none =>
      cases q' with
      | none => rfl
      | some p' => exact absurd hkey (hdeclared hb p' rfl)
    | some p =>
      cases q' with
      | none => exact absurd hkey.symm (hdeclared hmem p rfl)
      | some p' => exact congrArg some hkey
  rw [hsame] at hb
  exact Xml.uri_unique (ht.declared_nodup _) hb hmem

/-! ## Tests -/

/-- Whether the name of an element can be looked up: where a default namespace is declared, an
unprefixed name has to start as the name of a step does. -/
def findable (d : Document) (n : QName) : Bool :=
  (defaultUri d).isNone || n.qualifier.isSome || startsStep n

/-- The name under which an element is looked up. -/
def lookupName (hasDefault : Bool) (n : QName) : QName := if hasDefault then inDefault n else n

/-- What passes the test for a name with a prefix. -/
theorem accepts_qualified (ht : d.Tidy) (ha : Addressable d) {default : Option String} {n : QName}
    {q : String} {uri : Option String} (hn : IsQName n) (hq : n.qualifier = some q)
    (h : Bound (d.declarations documentElement) default n uri) (l : String) (other : Option String) :
    NameTest.accepts (Namespaces.ofDocument d false) l other (testOf n) =
      .ok (decide (n.localPart = l) && decide (other = uri)) := by
  have hresolve : ∃ u, uri = some u ∧
      XPath.resolveQualifier (Namespaces.ofDocument d false) q = .ok u := by
    -- the prefix is that of `xml`, which is bound without a declaration, or a declared one
    rcases h with ⟨hnone, -⟩ | ⟨hxml, hu⟩ | ⟨q', u, hq', hne, hmem, hu⟩
    · rw [hq] at hnone
      cases hnone
    · rw [hq] at hxml
      cases hxml
      exact ⟨_, hu, by rw [XPath.resolveQualifier, if_pos rfl]⟩
    · rw [hq] at hq'
      cases hq'
      refine ⟨u, hu, ?_⟩
      have hempty : some q ≠ some "" := by
        intro heq
        cases heq
        exact (hn.2 "" hq).1 rfl
      have htable : (Namespaces.ofDocument d false).uri? (some q) = some u :=
        uri?_ofDocument ht ha hempty hmem
      rw [XPath.resolveQualifier, if_neg hne, htable]
  obtain ⟨u, hu, hresolve⟩ := hresolve
  rw [testOf, hq, NameTest.accepts, hresolve, hu]
  rfl

/-- What passes the test for a name in the default namespace. -/
theorem accepts_default (ht : d.Tidy) (ha : Addressable d) {u : String} (hu : defaultUri d = some u)
    (l : String) (l' : String) (other : Option String) :
    NameTest.accepts (Namespaces.ofDocument d false) l' other
        (testOf ⟨some Namespaces.defaultPrefix, l⟩) =
      .ok (decide (l = l') && decide (other = some u)) := by
  have htable : (Namespaces.ofDocument d false).uri? (some Namespaces.defaultPrefix) = some u :=
    uri?_ofDocument ht ha (fun h => by cases h) (mem_of_defaultUri hu)
  have hxml : Namespaces.defaultPrefix ≠ "xml" := by decide
  rw [testOf, NameTest.accepts, XPath.resolveQualifier, if_neg hxml, htable]
  rfl

/-- What passes the test for a name without a prefix. -/
theorem accepts_unqualified {ns : Namespaces} {n : QName} (hq : n.qualifier = none) (l : String)
    (other : Option String) :
    NameTest.accepts ns l other (testOf n) =
      .ok (decide (n.localPart = l) && decide (other = none)) := by
  rw [testOf, hq, NameTest.accepts]
  cases other <;> rfl

theorem name_eq_iff {n n' : QName} :
    n' = n ↔ n.localPart = n'.localPart ∧ n'.qualifier = n.qualifier := by
  obtain ⟨q, l⟩ := n
  obtain ⟨q', l'⟩ := n'
  rw [QName.mk.injEq, and_comm, eq_comm (a := l)]

/-- A test for the local part and the namespace of a name is one for the name. -/
theorem decide_name {default : Option String} {n n' : QName} {uri uri' : Option String}
    (ht : d.Tidy) (ha : Addressable d)
    (hdefault : ∀ u ∈ default, (none, u) ∈ d.declarations documentElement)
    (h : Bound (d.declarations documentElement) default n uri)
    (h' : Bound (d.declarations documentElement) default n' uri') :
    (decide (n.localPart = n'.localPart) && decide (uri' = uri)) = decide (n' = n) := by
  have hsame : uri' = uri ↔ n'.qualifier = n.qualifier := by
    constructor
    · rintro rfl
      exact h'.qualifier_eq ha hdefault h
    · exact h'.uri_eq (ht.declared_nodup _) h
  rw [← Bool.decide_and, decide_eq_decide, name_eq_iff, hsame]

/-- **The test for the name of an element passes the elements of that name**, or none if the name
cannot be looked up. -/
theorem accepts_element (h : d.Sound) (ht : d.Tidy) (ha : Addressable d) {id' : NodeId}
    {e' : Element} (he : d.element? id = some e) (he' : d.element? id' = some e') :
    NameTest.accepts (Namespaces.ofDocument d false) e'.name.localPart e'.uri
        (testOf (lookupName (defaultUri d).isSome e.name)) =
      .ok (findable d e.name && decide (e'.name = e.name)) := by
  have hb := bound_element h ht ha he
  have hb' := bound_element h ht ha he'
  have hname := decide_name ht ha (fun u => mem_of_defaultUri) hb hb'
  rw [← hname]
  cases hq : e.name.qualifier with
  | some q =>
    have hn := isQName_iff.2 (ha.elements id e he)
    have hlookup : lookupName (defaultUri d).isSome e.name = e.name := by
      simp [lookupName, inDefault, hq]
    have hfind : findable d e.name = true := by simp [findable, hq]
    rw [hlookup, hfind, accepts_qualified ht ha hn hq hb, Bool.true_and]
  | none =>
    have huri := hb.uri_of_qualifier_none hq
    cases hd : defaultUri d with
    | none =>
      rw [hd] at huri
      have hfind : findable d e.name = true := by simp [findable, hd]
      rw [hfind, huri, Bool.true_and]
      exact accepts_unqualified hq _ _
    | some u =>
      rw [hd] at huri
      by_cases hstarts : startsStep e.name
      · have hlookup : lookupName (some u).isSome e.name =
            ⟨some Namespaces.defaultPrefix, e.name.localPart⟩ := by
          simp [lookupName, inDefault, hq, hstarts]
        have hfind : findable d e.name = true := by simp [findable, hstarts]
        rw [hlookup, hfind, huri, Bool.true_and]
        exact accepts_default ht ha hd _ _ _
      · have hlookup : lookupName (some u).isSome e.name = e.name := by
          simp [lookupName, inDefault, hstarts]
        have hfind : findable d e.name = false := by simp [findable, hd, hq, hstarts]
        -- the test asks for no namespace, and no element is in none
        have hne : e'.uri ≠ none := by
          intro hnone
          rw [hnone] at hb'
          have := hb'.uri_of_qualifier_none hb'.qualifier_eq_none
          rw [hd] at this
          cases this
        rw [hlookup, hfind, accepts_unqualified hq, decide_eq_false hne, Bool.and_false,
          Bool.false_and]

/-- **The test for the name of an attribute passes that name only.** -/
theorem accepts_attribute (h : d.Sound) (ht : d.Tidy) (ha : Addressable d)
    (he : d.element? id = some e) {a a' : Xml.Attribute} (hmem : a ∈ e.attributes)
    (hmem' : a' ∈ e.attributes) :
    NameTest.accepts (Namespaces.ofDocument d false) a'.name.localPart a'.uri (testOf a.name) =
      .ok (decide (a'.name = a.name)) := by
  have hb := bound_attribute h ht ha he hmem
  have hb' := bound_attribute h ht ha he hmem'
  have hname := decide_name ht ha (fun u hu => by cases hu) hb hb'
  rw [← hname]
  cases hq : a.name.qualifier with
  | some q =>
    have hn := isQName_iff.2 (ha.attributes id e he a hmem)
    exact accepts_qualified ht ha hn hq hb _ _
  | none =>
    rw [hb.uri_of_qualifier_none hq]
    exact accepts_unqualified hq _ _

end

end XmlAudit.Location
