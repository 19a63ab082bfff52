import XmlAudit.Proofs.Xml.Kinship
import XmlAudit.Proofs.Xml.Numbering

/-!
# Namespaces are scoped lexically

* `Document.Binds`: the nearest declaration of a qualifier, going up from a node.
* `lookup_inScope`: what a scope holds of a qualifier is its nearest declaration.
* `parse_scoped`: the names in every document that can be read belong to the namespaces that the
  nearest declarations of their qualifiers give them.
-/

namespace XmlAudit.Xml

namespace Document

/-- **The nearest declaration of a qualifier**, none being that of names without one, gives it the
namespace `uri`: it stands in the node itself, or else where it is for the parent. -/
inductive Binds (d : Document) (q : Option String) (uri : String) : NodeId → Prop
  | here {id : NodeId} (h : (q, uri) ∈ d.declarations id) : Binds d q uri id
  | above {id p : NodeId} (hnot : ∀ other, (q, other) ∉ d.declarations id)
    (hp : d.parent? id = some p) (h : Binds d q uri p) : Binds d q uri id

variable {d : Document} {id : NodeId} {q : Option String} {uri : String}

/-! ## Scopes -/

/-- The declarations of a node are searched for one of a qualifier. -/
theorem Tidy.lookup_declarations (ht : d.Tidy) :
    (d.declarations id).reverse.lookup q = some uri ↔ (q, uri) ∈ d.declarations id := by
  constructor
  · intro h
    exact List.mem_reverse.1 (mem_of_lookup h)
  · intro h
    refine lookup_of_unique (List.mem_reverse.2 h) ?_
    intro other hother
    exact uri_unique (ht.declared_nodup id) (List.mem_reverse.1 hother) h

theorem lookup_declarations_eq_none :
    (d.declarations id).reverse.lookup q = none ↔ ∀ other, (q, other) ∉ d.declarations id := by
  rw [List.lookup_eq_none_iff]
  constructor
  · intro h other hother
    have hne := h _ (List.mem_reverse.2 hother)
    simp at hne
  · rintro h ⟨k, other⟩ hother
    rw [bne_iff_ne]
    rintro rfl
    exact h other (List.mem_reverse.1 hother)

/-- **A scope holds the nearest declaration of every qualifier.** -/
theorem lookup_inScope (h : d.Sound) (ht : d.Tidy) :
    (d.inScope id).lookup q = some uri ↔ d.Binds q uri id := by
  -- a node adds its own declarations in front of those in force around it
  induction id using Nat.strongRecOn with
  | _ id ih =>
    have hhere : ∀ outer : List Declaration, ((d.declarations id).reverse ++ outer).lookup q = some uri ↔
        (q, uri) ∈ d.declarations id ∨
          (∀ other, (q, other) ∉ d.declarations id) ∧ outer.lookup q = some uri := by
      intro outer
      rw [List.lookup_append, Option.or_eq_some_iff, ht.lookup_declarations,
        lookup_declarations_eq_none]
    cases hp : d.parent? id with
    | none =>
      have hscope : d.inScope id = (d.declarations id).reverse ++ [] := by
        rw [inScope, ancestors_eq_nil hp]
        simp
      rw [hscope, hhere]
      constructor
      · rintro (hd | ⟨-, hd⟩)
        · exact .here hd
        · cases hd
      · intro hb
        cases hb with
        | here hd => exact .inl hd
        | above _ hparent =>
          rw [hp] at hparent
          cases hparent
    | some p =>
      rw [h.inScope_eq hp, hhere, ih p (h.parent_lt hp)]
      constructor
      · rintro (hd | ⟨hnot, hb⟩)
        · exact .here hd
        · exact .above hnot hp hb
      · intro hb
        cases hb with
        | here hd => exact .inl hd
        | above hnot hparent hb =>
          rw [hp] at hparent
          cases hparent
          exact .inr ⟨hnot, hb⟩

theorem Binds.unique {other : String} (h : d.Sound) (ht : d.Tidy) (hb : d.Binds q uri id)
    (hb' : d.Binds q other id) : uri = other := by
  rw [← lookup_inScope h ht] at hb hb'
  exact Option.some.inj (hb.symm.trans hb')

/-! ## Names -/

/-- **What a written qualifier stands for in a node**: `xml` for the namespace of that name, and every
other one for that of its nearest declaration. -/
def Means (d : Document) (id : NodeId) (qualifier uri : String) : Prop :=
  if qualifier = "xml" then uri = xmlNamespace else d.Binds (some qualifier) uri id

theorem means_of_resolveQualifier (h : d.Sound) (ht : d.Tidy) {qualifier : String}
    (hq : resolveQualifier (d.inScope id) qualifier = .ok uri) : d.Means id qualifier uri := by
  rw [resolveQualifier] at hq
  rw [Means]
  split at hq
  · next hxml =>
    rw [if_pos hxml]
    cases hq
    rfl
  · next hxml =>
    rw [if_neg hxml]
    split at hq
    · next found hfound =>
      cases hq
      exact (lookup_inScope h ht).1 hfound
    · cases hq

/-- **Names are scoped lexically**: the nearest declarations of qualifiers, in the element itself or in
what contains it, give them their namespaces. -/
structure Scoped (d : Document) : Prop where
  /-- A qualifier has one nearest declaration at most. -/
  unique : ∀ id q uri other, d.Binds q uri id → d.Binds q other id → uri = other
  /-- A qualified element belongs to the namespace that its qualifier stands for. -/
  qualified : ∀ id e, d.element? id = some e → ∀ q, e.name.qualifier = some q →
    ∃ uri, e.uri = some uri ∧ d.Means id q uri
  /-- Any other one belongs to the default namespace, unless that is empty or not declared. -/
  unqualified : ∀ id e, d.element? id = some e → e.name.qualifier = none →
    ∀ uri, e.uri = some uri ↔ d.Binds none uri id ∧ uri ≠ ""
  /-- A qualified attribute belongs to the namespace that its qualifier stands for. -/
  attribute_qualified : ∀ id e, d.element? id = some e → ∀ a ∈ e.attributes,
    ∀ q, a.name.qualifier = some q → ∃ uri, a.uri = some uri ∧ d.Means id q uri
  /-- Any other one belongs to none. -/
  attribute_unqualified : ∀ id e, d.element? id = some e → ∀ a ∈ e.attributes,
    a.name.qualifier = none → a.uri = none

theorem Tidy.scoped (h : d.Sound) (ht : d.Tidy) : d.Scoped := by
  refine ⟨fun id q uri other hb hb' => hb.unique h ht hb', ?_, ?_, ?_, ?_⟩
  · intro id e he q hq
    have huri := (ht.resolved id e he).uri
    rw [elementUri, hq] at huri
    obtain ⟨uri, hr, heq⟩ := map_eq_ok.1 huri
    exact ⟨uri, heq.symm, means_of_resolveQualifier h ht hr⟩
  · intro id e he hq uri
    have huri := (ht.resolved id e he).uri
    rw [elementUri, hq] at huri
    rw [← Except.ok.inj huri, Option.filter_eq_some_iff, lookup_inScope h ht, decide_eq_true_eq]
  · intro id e he a ha q hq
    have huri := (ht.resolved id e he).attributes a ha
    rw [attributeUri, hq] at huri
    obtain ⟨uri, hr, heq⟩ := map_eq_ok.1 huri
    exact ⟨uri, heq.symm, means_of_resolveQualifier h ht hr⟩
  · intro id e he a ha hq
    have huri := (ht.resolved id e he).attributes a ha
    rw [attributeUri, hq] at huri
    exact (Except.ok.inj huri).symm

end Document

/-- **The names in every document that can be read are scoped lexically.** -/
theorem parse_scoped {bytes : List UInt8} {d : Document} (h : Document.parse bytes = .ok d) :
    d.Scoped :=
  (Document.parse_tidy h).scoped (Document.parse_sound h)

/-- In the document `<a xmlns='u' xmlns:p='v'><b p:c='' xmlns:p='w' xmlns=''/><p:d/></a>`, the qualifier
`p` stands for `w` in `b`, also for the attribute before the declaration, and for `v` behind `b`, which
itself is in no namespace. -/
theorem parse_scoped_redeclared :
    let b : Element :=
      ⟨⟨none, "b"⟩, none, [⟨⟨some "p", "c"⟩, some "w", ""⟩], [(some "p", "w"), (none, "")]⟩
    let e : Element := ⟨⟨some "p", "d"⟩, some "v", [], []⟩
    ∃ d : Document, Document.parse
        "<a xmlns='u' xmlns:p='v'><b p:c='' xmlns:p='w' xmlns=''/><p:d/></a>".toUTF8.toList = .ok d ∧
      d.Scoped ∧ d.element? 2 = some b ∧ d.element? 3 = some e ∧
      d.Means 2 "p" "w" ∧ d.Means 3 "p" "v" := by
  intro b e
  have hparsed : (Document.parse
      "<a xmlns='u' xmlns:p='v'><b p:c='' xmlns:p='w' xmlns=''/><p:d/></a>".toUTF8.toList).toOption.any
        (fun d => d.element? 2 = some b ∧ d.element? 3 = some e) = true := by
    decide +kernel
  obtain ⟨d, hd, hfound⟩ := (Option.any_eq_true _ _).1 hparsed
  obtain ⟨hb, he⟩ := of_decide_eq_true hfound
  have hscoped := parse_scoped (toOption_eq_some.1 hd)
  obtain ⟨w, hw, hmeans⟩ := hscoped.attribute_qualified 2 b hb _ List.mem_cons_self "p" rfl
  obtain ⟨v, hv, hmeans'⟩ := hscoped.qualified 3 e he "p" rfl
  cases hw
  cases hv
  exact ⟨d, toOption_eq_some.1 hd, hscoped, hb, he, hmeans, hmeans'⟩

end XmlAudit.Xml
