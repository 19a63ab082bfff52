import XmlAudit.Proofs.Xml.Arena
import XmlAudit.Proofs.Xml.Building

/-!
# Built trees in documents

* `Document.inScope`: the declarations of a node and of what contains it, the innermost first.
* `Document.Holds.built_at`: every node of a built tree is that of a built tree in its scope.
* `Document.Tidy`: what this says of the nodes of a document.
* `parse_tidy`: every document that can be read is tidy.
-/

namespace XmlAudit.Xml

/-- A qualifier is declared once. -/
theorem uri_unique {l : List Declaration} {k : Option String} {u u' : String}
    (hl : (l.map (·.1)).Nodup) (h : (k, u) ∈ l) (h' : (k, u') ∈ l) : u = u' := by
  have := List.inj_on_of_nodup_map hl h h' rfl
  exact congrArg (·.2) this

namespace Document

variable {d : Document} {id p s i : Nat} {t : Tree} {ts : List Tree}

/-! ## Ancestors -/

/-- As parents have lower numbers, no more ancestors than the number of a node are there to find. -/
theorem Sound.ancestorsWithin_eq (h : d.Sound) {fuel fuel' : Nat} (hf : id ≤ fuel)
    (hf' : id ≤ fuel') : d.ancestorsWithin fuel id = d.ancestorsWithin fuel' id := by
  induction id using Nat.strongRecOn generalizing fuel fuel' with
  | _ id ih =>
    rcases Nat.eq_zero_or_pos id with rfl | hpos
    · obtain ⟨n, hn, -, hp, -⟩ := h.root
      have hroot : d.parent? 0 = none := by
        have hn' : d.node? 0 = some n := hn
        simp [parent?, hn', hp]
      cases fuel <;> cases fuel' <;> simp [ancestorsWithin, hroot]
    · obtain ⟨f, rfl⟩ : ∃ f, fuel = f + 1 := ⟨fuel - 1, by omega⟩
      obtain ⟨f', rfl⟩ : ∃ f', fuel' = f' + 1 := ⟨fuel' - 1, by omega⟩
      rw [ancestorsWithin, ancestorsWithin]
      cases hp : d.parent? id with
      | none => rfl
      | some p =>
        have hlt := h.parent_lt hp
        have hle : p ≤ f := by lia
        have hle' : p ≤ f' := by lia
        simp only
        rw [ih p hlt hle hle']

/-- The ancestors of a node are its parent and the ancestors of that. -/
theorem Sound.ancestors_eq (h : d.Sound) (hp : d.parent? id = some p) :
    d.ancestors id = p :: d.ancestors p := by
  have hlt := h.parent_lt hp
  obtain ⟨f, rfl⟩ : ∃ f, id = f + 1 := ⟨id - 1, by omega⟩
  rw [ancestors, ancestorsWithin, hp]
  simp only
  rw [ancestors, h.ancestorsWithin_eq (by omega) (Nat.le_refl p)]

/-- The declarations made on a node. -/
def declarations (d : Document) (id : NodeId) : List Declaration :=
  ((d.element? id).map (·.declarations)).getD []

/-- **The declarations in force inside a node**, the innermost first. -/
def inScope (d : Document) (id : NodeId) : List Declaration :=
  (id :: d.ancestors id).flatMap fun i => (d.declarations i).reverse

theorem Sound.inScope_eq (h : d.Sound) (hp : d.parent? id = some p) :
    d.inScope id = (d.declarations id).reverse ++ d.inScope p := by
  rw [inScope, h.ancestors_eq hp, List.flatMap_cons, inScope]

theorem Sound.element?_root (h : d.Sound) : d.element? Document.root = none := by
  obtain ⟨n, hn, hk, -, -⟩ := h.root
  cases he : d.element? Document.root with
  | none => rfl
  | some e =>
    obtain ⟨m, hm, hke⟩ := element?_eq_some_iff.1 he
    rw [hn] at hm
    cases hm
    rw [hk] at hke
    cases hke

theorem Sound.parent?_root (h : d.Sound) : d.parent? Document.root = none := by
  obtain ⟨n, hn, -, hp, -⟩ := h.root
  rw [parent?, hn]
  exact hp

theorem Sound.inScope_root (h : d.Sound) : d.inScope Document.root = [] := by
  simp [inScope, declarations, h.element?_root, show d.ancestors Document.root = [] from rfl]

/-- The parent of a node is the document node or an element. -/
theorem Sound.parent_cases (h : d.Sound) (hp : d.parent? id = some p) :
    (p = Document.root ∧ id = Document.documentElement) ∨ ∃ e, d.element? p = some e := by
  have hc := h.child_iff.2 hp
  rcases Nat.eq_zero_or_pos p with rfl | hpos
  · obtain ⟨n, hn, -, -, hchildren⟩ := h.root
    have hn' : d.node? 0 = some n := hn
    left
    refine ⟨rfl, ?_⟩
    simpa [children, hn', hchildren] using hc
  · obtain ⟨n, -, hn, hk, -, -⟩ := h.inner p hpos (lt_size_of_child hc)
    right
    cases hkind : n.kind with
    | document => exact absurd hkind hk
    | element e => exact ⟨e, element?_eq_some_iff.2 ⟨n, hn, hkind⟩⟩
    | text s =>
      rw [h.leaf (text?_eq_some_iff.2 ⟨n, hn, hkind⟩)] at hc
      cases hc

/-- Every element has a parent. -/
theorem Sound.exists_parent {e : Element} (h : d.Sound) (he : d.element? id = some e) :
    ∃ p, d.parent? id = some p := by
  rcases Nat.eq_zero_or_pos id with rfl | hpos
  · rw [show d.element? 0 = none from h.element?_root] at he
    cases he
  · obtain ⟨n, p, -, -, -, hc⟩ := h.inner id hpos (lt_size_of_element? he)
    exact ⟨p, h.child_iff.1 hc⟩

/-! ## Built trees in their places -/

theorem Holds.inScope_eq (h : d.Sound) {line : Nat} {e : Element} {children : List Tree}
    (hd : d.Holds p s (.element line e children)) :
    d.inScope s = e.declarations.reverse ++ d.inScope p := by
  rw [h.inScope_eq hd.parent?]
  simp [declarations, element?, hd.1]

mutual

/-- **Every node of a held and built tree** is that of a tree built in its scope. -/
theorem Holds.built_at (h : d.Sound) : ∀ {t : Tree} {p s i : Nat}, d.Holds p s t →
    t.Built (d.inScope p) → s ≤ i → i < s + t.size →
    ∃ (q : Nat) (u : Tree), d.Holds q i u ∧ u.Built (d.inScope q)
  | .text _ _, p, s, i, hd, hb, hs, hi => by
    have : i = s := by simp only [Tree.size] at hi; omega
    subst this
    exact ⟨p, _, hd, hb⟩
  | .element line e children, p, s, i, hd, hb, hs, hi => by
    rcases Nat.eq_or_lt_of_le hs with rfl | hlt
    · exact ⟨p, _, hd, hb⟩
    · have hall := hb.2.2
      rw [← hd.inScope_eq h] at hall
      exact HoldsAll.built_at h hd.2 hall hlt (by simp only [Tree.size] at hi; omega)

theorem HoldsAll.built_at (h : d.Sound) : ∀ {ts : List Tree} {p s i : Nat}, d.HoldsAll p s ts →
    AllBuilt (d.inScope p) ts → s ≤ i → i < s + sizes ts →
    ∃ (q : Nat) (u : Tree), d.Holds q i u ∧ u.Built (d.inScope q)
  | [], p, s, i, _, _, hs, hi => by simp only [sizes] at hi; omega
  | t :: ts, p, s, i, hd, hb, hs, hi => by
    simp only [sizes] at hi
    rcases Nat.lt_or_ge i (s + t.size) with hlt | hge
    · exact Holds.built_at h hd.1 hb.1 hs hlt
    · exact HoldsAll.built_at h hd.2 hb.2 hge (by omega)

end

/-- The nodes of sibling trees of which no two texts stand next to each other. -/
theorem HoldsAll.isChain : ∀ {ts : List Tree} {p s : Nat}, d.HoldsAll p s ts → Separated ts →
    (siblingIds s ts).IsChain fun a b => d.isElement a ∨ d.isElement b
  | [], _, _, _, _ => .nil
  | t :: ts, p, s, hd, hsep => by
    obtain ⟨hhead, hsep⟩ := separated_cons.1 hsep
    refine List.isChain_cons.2 ⟨?_, hd.2.isChain hsep⟩
    have helement : ∀ {u : Tree} {s : Nat}, d.Holds p s u → u.IsElement → d.isElement s := by
      intro u s hu he
      cases u with
      | text => exact he.elim
      | element => simp [isElement, element?, hu.1]
    intro c hc
    cases ts with
    | nil => cases hc
    | cons u ts =>
      cases hc
      exact (hhead u rfl).imp (helement hd.1) (helement hd.2.1)

/-- **A document without leftovers:** no text is empty, no two texts are neighbours, and the names
of an element belong to the namespaces that the declarations in force give them. -/
structure Tidy (d : Document) : Prop where
  text_ne : ∀ id, d.text? id ≠ some ""
  separated : ∀ id, (d.children id).IsChain fun a b => d.isElement a ∨ d.isElement b
  resolved : ∀ id e, d.element? id = some e → e.Resolved (d.inScope id)

theorem Tidy.declared_nodup (ht : d.Tidy) (id : NodeId) :
    ((d.declarations id).map (·.1)).Nodup := by
  rw [declarations]
  cases he : d.element? id with
  | none => exact List.nodup_nil
  | some e => exact (ht.resolved id e he).declared

/-- Whatever has a number in the document of a built element, but for the node above that element, stands
for a tree that is built. -/
theorem exists_built (ht : t.IsElement) (hb : t.Built []) {id : Nat} (h0 : 0 < id)
    (hid : id < (ofTree t).size) :
    ∃ (q : Nat) (u : Tree), (ofTree t).Holds q id u ∧ u.Built ((ofTree t).inScope q) := by
  -- outside the document element nothing is declared
  rw [← (sound_ofTree ht).inScope_root] at hb
  rw [size_ofTree] at hid
  exact (holds_ofTree t).built_at (sound_ofTree ht) hb h0 (by simp only [documentElement]; omega)

/-- The same for a node that is no document node. -/
theorem exists_built_of_node (ht : t.IsElement) (hb : t.Built []) {id : Nat} {n : Node}
    (hn : (ofTree t).node? id = some n) (hk : n.kind ≠ .document) :
    ∃ (q : Nat) (u : Tree), (ofTree t).Holds q id u ∧ u.Built ((ofTree t).inScope q) := by
  rcases Nat.eq_zero_or_pos id with rfl | h0
  · rw [show (ofTree t).node? 0 = _ from node?_root_ofTree t] at hn
    cases hn
    exact absurd rfl hk
  · exact exists_built ht hb h0 (lt_size_iff.2 ⟨n, hn⟩)

theorem text?_ofTree_ne (ht : t.IsElement) (hb : t.Built []) (id : NodeId) :
    (ofTree t).text? id ≠ some "" := by
  intro hs
  obtain ⟨n, hn, hk⟩ := text?_eq_some_iff.1 hs
  obtain ⟨q, u, hu, hbu⟩ := exists_built_of_node ht hb hn (by simp [hk])
  cases u with
  | text line content =>
    rw [Holds, hn] at hu
    cases hu
    cases hk
    exact hbu rfl
  | element =>
    rw [hu.1] at hn
    cases hn
    cases hk

theorem children_ofTree_separated (ht : t.IsElement) (hb : t.Built []) (id : NodeId) :
    ((ofTree t).children id).IsChain fun a b => (ofTree t).isElement a ∨ (ofTree t).isElement b := by
  rcases Nat.eq_zero_or_pos id with rfl | h0
  · have hc : (ofTree t).children 0 = [documentElement] := by
      simp [children, show (ofTree t).node? 0 = _ from node?_root_ofTree t]
    rw [hc]
    exact .singleton _
  rcases Nat.lt_or_ge id (ofTree t).size with hid | hid
  · obtain ⟨q, u, hu, hbu⟩ := exists_built ht hb h0 hid
    cases u with
    | text => rw [Holds] at hu; simp [children, hu]
    | element =>
      rw [hu.children_eq]
      exact hu.2.isChain hbu.2.1
  · rw [children_eq_nil hid]
    exact .nil

theorem resolved_ofTree (ht : t.IsElement) (hb : t.Built []) {id : NodeId} {e : Element}
    (he : (ofTree t).element? id = some e) : e.Resolved ((ofTree t).inScope id) := by
  obtain ⟨n, hn, hk⟩ := element?_eq_some_iff.1 he
  obtain ⟨q, u, hu, hbu⟩ := exists_built_of_node ht hb hn (by simp [hk])
  cases u with
  | text line content =>
    rw [Holds, hn] at hu
    cases hu
    cases hk
  | element line e' children =>
    rw [hu.inScope_eq (sound_ofTree ht)]
    rw [hu.1] at hn
    cases hn
    cases hk
    exact hbu.1

/-- The document of a built element is tidy. -/
theorem tidy_ofTree (ht : t.IsElement) (hb : t.Built []) : (ofTree t).Tidy :=
  ⟨text?_ofTree_ne ht hb, children_ofTree_separated ht hb, fun _ _ => resolved_ofTree ht hb⟩

/-- **Every document that can be read is tidy.** -/
theorem parse_tidy {bytes : List UInt8} (h : Document.parse bytes = .ok d) : d.Tidy := by
  obtain ⟨t, ht, rfl⟩ := Document.parse_eq_ok.1 h
  obtain ⟨he, hb⟩ := Tree.parse_built ht
  exact tidy_ofTree he hb

end Document

end XmlAudit.Xml
