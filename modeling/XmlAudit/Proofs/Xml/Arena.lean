import XmlAudit.Proofs.Xml.Placement

/-!
# The arena of a document

* `Document.Tiles`: the subtrees of a list of nodes lie one right behind the other.
* `Document.Sound`: the invariant of an arena. The children of a node tile what it calls its
  subtree, and parents and children agree.
* `Sound.transGen_child_iff`: the numbers behind a node up to the last of its subtree are those of
  its descendants.
* `Sound.preorderWithin_eq`: numbers count the nodes in the order of a walk that visits parents first.
* `Sound.stringValue_eq`: the text of a node is that of its children.
-/

namespace XmlAudit.Xml

namespace Document

/-- The subtrees of the nodes of a list fill the numbers from `start` on and below `stop`, one right
behind the other. -/
def Tiles (d : Document) : Nat → List NodeId → Nat → Prop
  | start, [], stop => start = stop
  | start, c :: cs, stop => c = start ∧ start ≤ d.last start ∧ d.Tiles (d.last start + 1) cs stop

/-- **The invariant of an arena.** Node 0 is the document and lies above the document element; every
other node is a child of its parent, and what it calls its subtree is tiled by its children. -/
structure Sound (d : Document) : Prop where
  root : ∃ n, d.node? root = some n ∧ n.kind = .document ∧ n.parent = none ∧
    n.children = [documentElement]
  size_eq : d.size = d.last Document.root + 1
  documentElement : d.isElement documentElement
  inner : ∀ id : Nat, 0 < id → id < d.size → ∃ n p, d.node? id = some n ∧ n.kind ≠ .document ∧
    n.parent = some p ∧ id ∈ d.children p
  parent_of_child : ∀ {c p : Nat}, c ∈ d.children p → d.parent? c = some p
  tiles : ∀ id : Nat, id < d.size → d.Tiles (id + 1) (d.children id) (d.last id + 1)
  leaf : ∀ {id : Nat} {s}, d.text? id = some s → d.children id = []

/-! ## Arenas of trees -/

section

variable {d : Document} {p s : Nat} {t : Tree} {ts : List Tree}

theorem Holds.parent? (h : d.Holds p s t) : d.parent? s = some p := by
  obtain ⟨n, hn, -, hp, -⟩ := h.node
  simp [Document.parent?, hn, hp]

theorem Holds.last (h : d.Holds p s t) : d.last s + 1 = s + t.size := by
  obtain ⟨n, hn, -, -, hl⟩ := h.node
  simpa [Document.last, hn] using hl

theorem HoldsAll.tiles : ∀ {ts : List Tree} {s : Nat}, d.HoldsAll p s ts →
    d.Tiles s (siblingIds s ts) (s + sizes ts)
  | [], _, _ => rfl
  | t :: ts, s, h => by
    have hl := h.1.last
    have hpos := t.size_pos
    refine ⟨rfl, by lia, ?_⟩
    rw [hl, sizes, ← Nat.add_assoc]
    exact h.2.tiles

theorem HoldsAll.parent? : ∀ {ts : List Tree} {s : Nat} {c : Nat}, d.HoldsAll p s ts →
    c ∈ siblingIds s ts → d.parent? c = some p
  | t :: ts, s, c, h, hc => by
    rcases List.mem_cons.1 hc with rfl | hc
    · exact h.1.parent?
    · exact h.2.parent? hc

theorem Holds.tiles (h : d.Holds p s t) : d.Tiles (s + 1) (d.children s) (d.last s + 1) := by
  cases t with
  | text line content =>
    have hl := h.last
    have hc : d.children s = [] := by rw [Holds] at h; simp [Document.children, h]
    rw [hc, hl]; rfl
  | element line e children =>
    have hl := h.last
    rw [h.children_eq, hl, Tree.size, ← Nat.add_assoc]
    exact h.2.tiles

theorem Holds.parent_of_child {c : Nat} (h : d.Holds p s t) (hc : c ∈ d.children s) :
    d.parent? c = some s := by
  cases t with
  | text line content => rw [Holds] at h; simp [Document.children, h] at hc
  | element line e children => rw [h.children_eq] at hc; exact h.2.parent? hc

end

/-- **The document of an element tree is sound.** -/
theorem sound_ofTree {t : Tree} (ht : t.IsElement) : (ofTree t).Sound := by
  have hr : (ofTree t).node? 0 = _ := node?_root_ofTree t
  have hc₀ : (ofTree t).children 0 = [documentElement] := by simp [children, hr]
  have h1 := holds_ofTree t
  have hsize := size_ofTree t
  -- every node but the document node is that of a subtree, below its parent
  have hat : ∀ id : Nat, 0 < id → id < (ofTree t).size →
      ∃ (q : Nat) (u : Tree), (ofTree t).Holds q id u ∧ id ∈ (ofTree t).children q := by
    intro id h0 hid
    have hid' : id < 1 + t.size := by lia
    obtain ⟨q, u, hu, ⟨rfl, rfl, rfl⟩ | ⟨-, -, hc⟩⟩ := h1.tree_at h0 hid'
    · exact ⟨0, _, hu, by rw [hc₀]; exact List.mem_cons_self⟩
    · exact ⟨q, u, hu, hc⟩
  have hlast : (ofTree t).last 0 = t.size := by simp [last, hr]
  refine ⟨⟨_, hr, rfl, rfl, rfl⟩, by rw [hsize, Document.root, hlast], ?_, ?_, ?_, ?_, ?_⟩
  · cases t with
    | text => exact ht.elim
    | element => simp [isElement, element?, h1.1]
  · intro id h0 hid
    obtain ⟨q, u, hu, hc⟩ := hat id h0 hid
    obtain ⟨n, hn, hk, hp, -⟩ := hu.node
    exact ⟨n, q, hn, hk, hp, hc⟩
  · intro c p hc
    rcases Nat.eq_zero_or_pos p with rfl | hp
    · rw [hc₀] at hc
      cases List.mem_singleton.1 hc
      exact h1.parent?
    · obtain ⟨q, u, hu, -⟩ := hat p hp (lt_size_of_child hc)
      exact hu.parent_of_child hc
  · intro id hid
    rcases Nat.eq_zero_or_pos id with rfl | h0
    · have hl := h1.last
      have hpos := t.size_pos
      rw [hc₀]
      refine ⟨rfl, ?_, ?_⟩
      · simp only [documentElement] at *; lia
      · simp only [documentElement, root, Tiles] at *; lia
    · obtain ⟨q, u, hu, -⟩ := hat id h0 hid
      exact hu.tiles
  · intro id s hs
    rcases Nat.eq_zero_or_pos id with rfl | h0
    · simp [text?, hr] at hs
    · obtain ⟨n, hn, -⟩ := text?_eq_some_iff.1 hs
      obtain ⟨q, u, hu, -⟩ := hat id h0 (lt_size_iff.2 ⟨n, hn⟩)
      cases u with
      | text => rw [Holds] at hu; simp [children, hu]
      | element => simp [text?, hu.1] at hs

/-! ## Tiles -/

section

variable {d : Document} {cs : List NodeId} {start stop : Nat}

theorem Tiles.le : ∀ {cs : List NodeId} {start stop : Nat}, d.Tiles start cs stop → start ≤ stop
  | [], _, _, h => Nat.le_of_eq h
  | _ :: _, _, _, ⟨_, hl, h⟩ => by have := h.le; lia

/-- A tile begins with its node, ends with the last of its subtree, and lies between the ends. -/
theorem Tiles.bounds : ∀ {cs : List NodeId} {start stop c : Nat}, d.Tiles start cs stop → c ∈ cs →
    start ≤ c ∧ c ≤ d.last c ∧ d.last c < stop
  | c₀ :: cs, start, stop, c, ⟨h₀, hl, h⟩, hc => by
    subst h₀
    rcases List.mem_cons.1 hc with rfl | hc
    · have := h.le
      exact ⟨Nat.le_refl c, hl, this⟩
    · obtain ⟨h1, h2, h3⟩ := h.bounds hc
      exact ⟨by lia, h2, h3⟩

theorem Tiles.pairwise : ∀ {cs : List NodeId} {start stop : Nat}, d.Tiles start cs stop →
    cs.Pairwise fun a b => d.last a < b
  | [], _, _, _ => List.Pairwise.nil
  | c :: cs, start, stop, ⟨h₀, _, h⟩ => by
    subst h₀
    exact List.pairwise_cons.2 ⟨fun b hb => (h.bounds hb).1, h.pairwise⟩

theorem Tiles.sorted (h : d.Tiles start cs stop) : cs.Pairwise fun a b : Nat => a < b := by
  refine h.pairwise.imp_of_mem ?_
  intro a b ha _ hab
  exact Nat.lt_of_le_of_lt (h.bounds ha).2.1 hab

/-- Every number between the ends lies in a tile. -/
theorem Tiles.exists_mem : ∀ {cs : List NodeId} {start stop i : Nat}, d.Tiles start cs stop →
    start ≤ i → i < stop → ∃ c ∈ cs, c ≤ i ∧ i ≤ d.last c
  | [], start, stop, i, h, hs, hi => by have : start = stop := h; omega
  | c :: cs, start, stop, i, ⟨h₀, hl, h⟩, hs, hi => by
    subst h₀
    by_cases hci : i ≤ d.last c
    · exact ⟨c, List.mem_cons_self, hs, hci⟩
    · obtain ⟨c', hc', hb⟩ := h.exists_mem (by lia) hi
      exact ⟨c', List.mem_cons_of_mem _ hc', hb⟩

/-- The tiles, written out, are all numbers between the ends. -/
theorem Tiles.flatMap_range : ∀ {cs : List NodeId} {start stop : Nat}, d.Tiles start cs stop →
    cs.flatMap (fun c => List.range' c (d.last c + 1 - c)) = List.range' start (stop - start)
  | [], start, stop, h => by have : start = stop := h; simp [this]
  | c :: cs, start, stop, ⟨h₀, hl, h⟩ => by
    subst h₀
    have hle := h.le
    have hlen : stop - c = (d.last c + 1 - c) + (stop - (d.last c + 1)) := by lia
    have hnext : d.last c + 1 = c + (d.last c + 1 - c) := by lia
    rw [List.flatMap_cons, h.flatMap_range, hlen, ← List.range'_append_1, ← hnext]

end

/-! ## What the invariant gives -/

/-- `m` is a child of `id`. -/
def IsChild (d : Document) (id m : NodeId) : Prop := m ∈ d.children id

/-- A node, then what a walk from its first child finds, and so on: parents come before children,
and children in their order. At most `fuel` generations are visited. -/
def preorderWithin (d : Document) : Nat → NodeId → List NodeId
  | 0, _ => []
  | fuel + 1, id => id :: (d.children id).flatMap (d.preorderWithin fuel)

/-- The nodes of a subtree as a walk finds them that visits parents before children. -/
def preorder (d : Document) (id : NodeId) : List NodeId := d.preorderWithin d.size id

namespace Sound

variable {d : Document} (h : d.Sound) {id m c p : Nat}

include h

theorem child_iff : c ∈ d.children p ↔ d.parent? c = some p := by
  refine ⟨h.parent_of_child, fun hp => ?_⟩
  rcases Nat.eq_zero_or_pos c with rfl | hc
  · obtain ⟨n, hn, -, hnp, -⟩ := h.root
    have hn' : d.node? 0 = some n := hn
    simp [parent?, hn', hnp] at hp
  · have hlt : c < d.size := by
      rw [lt_size_iff]
      cases hn : d.node? c with
      | none => simp [parent?, hn] at hp
      | some n => exact ⟨n, rfl⟩
    obtain ⟨n, q, hn, -, hq, hmem⟩ := h.inner c hc hlt
    have : q = p := by simpa [parent?, hn, hq] using hp
    rwa [← this]

theorem child_bounds (hc : c ∈ d.children id) : id < c ∧ c ≤ d.last c ∧ d.last c ≤ d.last id := by
  have ht := h.tiles id (lt_size_of_child hc)
  obtain ⟨h1, h2, h3⟩ := ht.bounds hc
  exact ⟨h1, h2, by lia⟩

theorem parent_lt (hp : d.parent? c = some p) : p < c := (h.child_bounds (h.child_iff.2 hp)).1

/-- Subtrees end within the document: up the parents, subtrees only grow. -/
theorem last_lt (hid : id < d.size) : d.last id < d.size := by
  induction id using Nat.strongRecOn with
  | _ id ih =>
    rcases Nat.eq_zero_or_pos id with rfl | h0
    · have hr : d.size = d.last 0 + 1 := h.size_eq
      lia
    · obtain ⟨n, p, -, -, -, hc⟩ := h.inner id h0 hid
      obtain ⟨h1, -, h3⟩ := h.child_bounds hc
      have := ih p h1 (lt_size_of_child hc)
      lia

/-- **The numbers behind a node up to the last of its subtree are those of its descendants.** -/
theorem transGen_child_iff (hid : id < d.size) :
    Relation.TransGen d.IsChild id m ↔ id < m ∧ m ≤ d.last id := by
  constructor
  · intro hm
    have hin : id < m ∧ m ≤ d.last m ∧ d.last m ≤ d.last id := by
      induction hm with
      | single hc => exact h.child_bounds hc
      | tail _ hc ih =>
        obtain ⟨h1, h2, h3⟩ := h.child_bounds hc
        exact ⟨by lia, h2, by lia⟩
    exact ⟨hin.1, by lia⟩
  · -- the tile that holds `m` starts closer to it
    induction hk : m - id using Nat.strongRecOn generalizing id with
    | _ k ih =>
      rintro ⟨hlt, hle⟩
      obtain ⟨c, hc, hcm, hml⟩ := (h.tiles id hid).exists_mem hlt (Nat.lt_succ_of_le hle)
      have hb := h.child_bounds hc
      rcases Nat.eq_or_lt_of_le hcm with rfl | hcm
      · exact .single hc
      · have hcs : c < d.size := by have := h.last_lt hid; lia
        exact .head hc (ih (m - c) (by lia) hcs rfl ⟨hcm, hml⟩)

omit h in
theorem mem_descendants : m ∈ d.descendants id ↔ id < m ∧ m ≤ d.last id := by
  simp only [descendants, idsBetween, List.mem_range'_1]
  lia

/-- The nodes inside a subtree are its children, each with the nodes inside it. -/
theorem descendants_eq (hid : id < d.size) :
    d.descendants id = (d.children id).flatMap fun c => c :: d.descendants c := by
  have ht := h.tiles id hid
  rw [descendants, idsBetween, ← ht.flatMap_range]
  refine List.flatMap_congr fun c hc => ?_
  obtain ⟨-, hl, -⟩ := h.child_bounds hc
  obtain ⟨k, hk⟩ : ∃ k, d.last c + 1 - c = k + 1 := ⟨d.last c - c, by lia⟩
  have hk' : d.last c + 1 - (c + 1) = k := by lia
  rw [hk, List.range'_succ, descendants, idsBetween, hk']

/-- **Numbers count the nodes as the walk finds them.** -/
theorem preorderWithin_eq {fuel : Nat} (hid : id < d.size) (hf : d.size ≤ fuel + id) :
    d.preorderWithin fuel id = id :: d.descendants id := by
  induction fuel generalizing id with
  | zero => omega
  | succ fuel ih =>
    rw [preorderWithin, h.descendants_eq hid]
    congr 1
    refine List.flatMap_congr fun c hc => ?_
    obtain ⟨h1, h2, h3⟩ := h.child_bounds hc
    have hcs : c < d.size := by have := h.last_lt hid; lia
    exact ih hcs (by lia)

theorem preorder_root : d.preorder Document.root = List.range d.size := by
  have hpos : 0 < d.size := by have := h.size_eq; lia
  have hl := h.size_eq
  have hwalk := h.preorderWithin_eq hpos (Nat.le_add_right d.size 0)
  rw [preorder, Document.root, hwalk, descendants, idsBetween, List.range_eq_range']
  have hk : d.size = d.last 0 + 1 := hl
  rw [hk, List.range'_succ]
  rfl

/-- The text of a subtree, which is the text of its root or else that of all text inside it. -/
theorem stringValue_eq_join (hid : id < d.size) :
    d.stringValue id = String.join ((id :: d.descendants id).filterMap d.text?) := by
  unfold stringValue
  cases ht : d.text? id with
  | none => simp [ht]
  | some s =>
    have hd : d.descendants id = [] := by rw [h.descendants_eq hid, h.leaf ht]; rfl
    simp [ht, hd]

/-- **The text of an element is that of its children**, in order. -/
theorem stringValue_eq {e : Element} (he : d.element? id = some e) :
    d.stringValue id = String.join ((d.children id).map d.stringValue) := by
  have hid := lt_size_of_element? he
  have hjoin : ∀ cs : List NodeId, (∀ c ∈ cs, c ∈ d.children id) →
      String.join ((cs.flatMap fun c => c :: d.descendants c).filterMap d.text?) =
        String.join (cs.map d.stringValue) := by
    intro cs
    induction cs with
    | nil => intro _; rfl
    | cons c cs ih =>
      intro hcs
      have hc := h.child_bounds (hcs c List.mem_cons_self)
      have hlt : c < d.size := by have := h.last_lt hid; lia
      rw [List.flatMap_cons, List.filterMap_append, String.join_append,
        ← h.stringValue_eq_join hlt, ih fun x hx => hcs x (List.mem_cons_of_mem _ hx),
        List.map_cons, String.join_cons]
  rw [stringValue, text?_eq_none he]
  simp only
  rw [h.descendants_eq hid]
  exact hjoin _ fun c hc => hc

end Sound

end Document

end XmlAudit.Xml
