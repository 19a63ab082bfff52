import XmlAudit.Proofs.Xml.Building

/-!
# Trees and the events that spell them

* `Pieces`: events between two tags, and the character data that they bring.
* `TreeEvents`, `Content`: the events of an element and of what it contains.
* `Traversal`: the events of a document whose document element is a given tree.
* `Traversal.buildTree`: the builder rebuilds that tree.
-/

namespace XmlAudit.Xml

/-- A piece of character data with its references expanded, and its line. -/
abbrev Piece := List Char × Nat

/-- **Events between two tags:** character data, each piece of which may be written as text or as
CDATA, with declarations and other markup anywhere between the pieces. The entities declared change
from `en` to `en'`. -/
inductive Pieces : Entities → List (Event × Nat) → List Piece → Entities → Prop
  | nil {en} : Pieces en [] [] en
  | text {en en' raw cs line es ps} (hcs : expand en raw = .ok cs) (h : Pieces en es ps en') :
    Pieces en ((.text raw, line) :: es) ((cs, line) :: ps) en'
  | cdata {en en' cs line es ps} (h : Pieces en es ps en') :
    Pieces en ((.cdata cs, line) :: es) ((cs, line) :: ps) en'
  | doctype {en en' content line es ps} (h : Pieces (en.declare content) es ps en') :
    Pieces en ((.doctype content, line) :: es) ps en'
  | other {en en' line es ps} (h : Pieces en es ps en') : Pieces en ((.other, line) :: es) ps en'

/-- The first piece that is not empty. -/
def firstPiece? (ps : List Piece) : Option Piece := ps.find? fun p => !p.1.isEmpty

/-- **The text of a run of pieces**: one text with all of them, on the line of the first that is not
empty, or no text if all are empty. -/
def textOf (ps : List Piece) : List Tree :=
  match firstPiece? ps with
  | some first => [.text first.2 (String.ofList (ps.flatMap (·.1)))]
  | none => []

mutual

/-- **The events of an element** inside the declarations `outer`: its start tag, what it contains and
the end tag of the same name, or a tag that is both. -/
inductive TreeEvents : List Declaration → Entities → List (Event × Nat) → Tree → Entities → Prop
  | empty {outer en tag e line} (h : tag.Spells en outer e) :
    TreeEvents outer en [(.empty tag, line)] (.element line e []) en
  | element {outer en en' tag e line line' es children} (h : tag.Spells en outer e)
      (hc : Content (e.declarations.reverse ++ outer) en es children en') :
    TreeEvents outer en ((.start tag, line) :: (es ++ [(.stop tag.name, line')]))
      (.element line e children) en'

/-- The events of what an element contains, `scope` being the declarations in force inside it: runs
of pieces with elements between them. -/
inductive Content : List Declaration → Entities → List (Event × Nat) → List Tree → Entities → Prop
  | pieces {scope en en' es ps} (h : Pieces en es ps en') : Content scope en es (textOf ps) en'
  | child {scope en en₁ en₂ en' es es₁ es₂ ps t ts} (h : Pieces en es ps en₁)
      (ht : TreeEvents scope en₁ es₁ t en₂) (hts : Content scope en₂ es₂ ts en') :
    Content scope en (es ++ es₁ ++ es₂) (textOf ps ++ t :: ts) en'

end

/-- **The events of a document**: those of its document element, with blank pieces around it. -/
def Traversal (es : List (Event × Nat)) (t : Tree) : Prop :=
  ∃ before middle after blanks blanks' en en' en'', es = before ++ middle ++ after ∧
    Pieces [] before blanks en ∧ (∀ p ∈ blanks, p.1.all Text.isBlank) ∧
    TreeEvents [] en middle t en' ∧
    Pieces en' after blanks' en'' ∧ ∀ p ∈ blanks', p.1.all Text.isBlank

theorem textOf_reverse (ps : List Piece) : (textOf ps).reverse = textOf ps := by
  unfold textOf; split <;> rfl

theorem flatMap_eq_nil_of_firstPiece? {ps : List Piece} (h : firstPiece? ps = none) :
    ps.flatMap (·.1) = [] := by
  rw [firstPiece?, List.find?_eq_none] at h
  rw [List.flatMap_eq_nil_iff]
  intro p hp
  simpa using h p hp

theorem flatMap_ne_nil_of_firstPiece? {ps : List Piece} {p : Piece} (h : firstPiece? ps = some p) :
    ps.flatMap (·.1) ≠ [] := by
  intro hnil
  have hp := List.flatMap_eq_nil_iff.1 hnil p (List.mem_of_find?_eq_some h)
  have := List.find?_some h
  simp [hp] at this

namespace Builder

variable {b : Builder} {en en' : Entities} {es : List (Event × Nat)} {ps pre : List Piece}

/-- The pieces since the last tag are those of a list. -/
structure Waits (b : Builder) (ps : List Piece) : Prop where
  pending : b.pending = ps.flatMap (·.1)
  line : ∀ p ∈ firstPiece? ps, b.pendingLine = p.2

theorem waits_nil (h : b.pending = []) : b.Waits [] :=
  ⟨h, fun p hp => by cases hp⟩

/-- One more piece inside an open element. -/
theorem Waits.append {p : Piece} (h : b.Waits pre) (ho : b.opened ≠ []) :
    ∃ b', b.append p.1 p.2 = .ok b' ∧ b'.opened = b.opened ∧ b'.root = b.root ∧
      b'.entities = b.entities ∧ b'.Waits (pre ++ [p]) := by
  refine ⟨_, append_eq_ok.2 (.inr ⟨ho, rfl⟩), rfl, rfl, rfl, by simp [h.pending], ?_⟩
  intro q hq
  -- the line is set by the first piece that is not empty, and kept by those after it
  rw [firstPiece?, List.find?_append] at hq
  cases hf : firstPiece? pre with
  | some r =>
    rw [firstPiece?] at hf
    rw [hf] at hq
    cases hq
    have hne : b.pending ≠ [] := h.pending ▸ flatMap_ne_nil_of_firstPiece? hf
    rw [if_neg (by simpa using hne)]
    exact h.line _ hf
  | none =>
    have hnil : b.pending = [] := h.pending.trans (flatMap_eq_nil_of_firstPiece? hf)
    rw [firstPiece?] at hf
    rw [hf, Option.none_or] at hq
    have hqp : q = p := List.mem_singleton.1 (List.mem_of_find?_eq_some hq)
    simp [hnil, hqp]

/-- **A run of pieces inside an open element** waits for the next tag. -/
theorem Waits.run (hp : Pieces en es ps en') : ∀ {b : Builder} {pre : List Piece}, b.Waits pre →
    b.opened ≠ [] → b.entities = en → ∃ b', b.run es = .ok b' ∧ b'.opened = b.opened ∧
      b'.root = b.root ∧ b'.entities = en' ∧ b'.Waits (pre ++ ps) := by
  -- text and CDATA join the text that waits; a document type declaration adds to the entities
  induction hp with
  | nil =>
    intro b pre h ho he
    exact ⟨b, rfl, rfl, rfl, he, by rwa [List.append_nil]⟩
  | @text en en' raw cs line es ps hcs _ ih =>
    intro b pre h ho he
    obtain ⟨b₁, h₁, ho₁, hr₁, he₁, hw₁⟩ := h.append (p := (cs, line)) ho
    obtain ⟨b', h', ho', hr', he', hw'⟩ := ih hw₁ (ho₁ ▸ ho) (he₁.trans he)
    refine ⟨b', run_cons_eq_ok.2 ⟨b₁, ?_, h'⟩, ho'.trans ho₁, hr'.trans hr₁, he', by simpa using hw'⟩
    simpa [step, he, hcs] using h₁
  | @cdata en en' cs line es ps _ ih =>
    intro b pre h ho he
    obtain ⟨b₁, h₁, ho₁, hr₁, he₁, hw₁⟩ := h.append (p := (cs, line)) ho
    obtain ⟨b', h', ho', hr', he', hw'⟩ := ih hw₁ (ho₁ ▸ ho) (he₁.trans he)
    exact ⟨b', run_cons_eq_ok.2 ⟨b₁, h₁, h'⟩, ho'.trans ho₁, hr'.trans hr₁, he', by simpa using hw'⟩
  | @doctype en en' content line es ps _ ih =>
    intro b pre h ho he
    obtain ⟨b', h', hrest⟩ := @ih { b with entities := b.entities.declare content } pre
      ⟨h.pending, h.line⟩ ho (by rw [he])
    exact ⟨b', run_cons_eq_ok.2 ⟨_, rfl, h'⟩, hrest⟩
  | other _ ih =>
    intro b pre h ho he
    obtain ⟨b', h', hrest⟩ := ih h ho he
    exact ⟨b', run_cons_eq_ok.2 ⟨_, rfl, h'⟩, hrest⟩

/-- **Blank pieces outside the document element** change nothing but the entities. -/
theorem run_blank (hp : Pieces en es ps en') : ∀ {b : Builder}, b.opened = [] → b.entities = en →
    (∀ p ∈ ps, p.1.all Text.isBlank) → b.run es = .ok { b with entities := en' } := by
  induction hp with
  | nil => intro b _ he _; subst he; rfl
  | @text en en' raw cs line es ps hcs _ ih =>
    intro b ho he hb
    obtain ⟨hcs', hb⟩ := List.forall_mem_cons.1 hb
    refine run_cons_eq_ok.2 ⟨b, ?_, ih ho he hb⟩
    have : b.append cs line = .ok b := append_eq_ok.2 (.inl ⟨ho, hcs', rfl⟩)
    simpa [step, he, hcs] using this
  | @cdata en en' cs line es ps _ ih =>
    intro b ho he hb
    obtain ⟨hcs', hb⟩ := List.forall_mem_cons.1 hb
    exact run_cons_eq_ok.2 ⟨b, append_eq_ok.2 (.inl ⟨ho, hcs', rfl⟩), ih ho he hb⟩
  | @doctype en en' content line es ps _ ih =>
    intro b ho he hb
    have := @ih { b with entities := b.entities.declare content } ho (by rw [he]) hb
    exact run_cons_eq_ok.2 ⟨_, rfl, this⟩
  | other _ ih =>
    intro b ho he hb
    exact run_cons_eq_ok.2 ⟨b, rfl, ih ho he hb⟩

/-- The pieces that wait become a text of the innermost open element. -/
theorem Waits.opened_flush (h : b.Waits ps) {frame : Frame} {outer : List Frame}
    (ho : b.opened = frame :: outer) :
    b.flush.opened = { frame with children := textOf ps ++ frame.children } :: outer := by
  rw [textOf]
  obtain ⟨hp, hb⟩ | ⟨frame', outer', ho', hp, hb⟩ := b.opened_flush
  · have hnil : ps.flatMap (·.1) = [] := by
      rw [← h.pending]
      exact hp.resolve_right (by rw [ho]; exact List.cons_ne_nil _ _)
    cases hf : firstPiece? ps with
    | none => rw [hb, ho]; rfl
    | some p => exact absurd hnil (flatMap_ne_nil_of_firstPiece? hf)
  · rw [ho'] at ho
    cases ho
    cases hf : firstPiece? ps with
    | none => exact absurd (h.pending.trans (flatMap_eq_nil_of_firstPiece? hf)) hp
    | some p => rw [hb, h.pending, h.line p hf]; rfl

theorem flush_of_pending (h : b.pending = []) : b.flush.opened = b.opened := by
  obtain ⟨-, hb⟩ | ⟨-, -, -, hp, -⟩ := b.opened_flush
  · exact hb
  · exact absurd h hp

theorem opened_attach {t : Tree} {frame : Frame} {outer : List Frame} (h : b.opened = frame :: outer) :
    (b.attach t).opened = { frame with children := t :: frame.children } :: outer := by
  simp only [attach, h]

theorem attach_congr {b₁ b₂ : Builder} {t : Tree} (ho : b₁.opened = b₂.opened)
    (hr : b₁.root = b₂.root) :
    (b₁.attach t).opened = (b₂.attach t).opened ∧ (b₁.attach t).root = (b₂.attach t).root := by
  cases b₁
  cases b₂
  subst ho hr
  simp only [attach]
  split <;> exact ⟨rfl, rfl⟩

@[simp] theorem pending_attach (b : Builder) (t : Tree) : (b.attach t).pending = b.pending := by
  simp only [attach]; split <;> rfl

@[simp] theorem entities_attach (b : Builder) (t : Tree) : (b.attach t).entities = b.entities := by
  simp only [attach]; split <;> rfl

/-- An end tag adds the innermost open element to what contains it. -/
theorem stop_of_opened_flush {frame : Frame} {outer : List Frame}
    (h : b.flush.opened = frame :: outer) (b₀ : Builder) (ho : b₀.opened = outer)
    (hr : b₀.root = b.root) :
    let t := Tree.element frame.line frame.element frame.children.reverse
    ∃ b', b.stop = .ok b' ∧ b'.pending = [] ∧ b'.entities = b.entities ∧
      b'.opened = (b₀.attach t).opened ∧ b'.root = (b₀.attach t).root := by
  intro t
  have hb : b.stop = .ok (({ b.flush with opened := outer } : Builder).attach t) :=
    stop_eq_ok.2 ⟨frame, outer, h, rfl⟩
  exact ⟨_, hb, by simp, by simp, attach_congr ho.symm (by simp [hr])⟩

end Builder

open Builder

/-- A builder reads events as an element with these declarations and entities around it. -/
def TreeRuns (outer : List Declaration) (en : Entities) (es : List (Event × Nat)) (t : Tree)
    (en' : Entities) : Prop :=
  ∀ b : Builder, scopeOf b.opened = outer → b.entities = en → ¬ (b.opened = [] ∧ b.root.isSome) →
    ∃ b', b.run es = .ok b' ∧ b'.pending = [] ∧ b'.entities = en' ∧
      b'.opened = (b.flush.attach t).opened ∧ b'.root = (b.flush.attach t).root

/-- A builder reads events, right behind a tag, as what the innermost open element contains. -/
def ContentRuns (scope : List Declaration) (en : Entities) (es : List (Event × Nat))
    (ts : List Tree) (en' : Entities) : Prop :=
  ∀ (b : Builder) (frame : Frame) (outer : List Frame), b.opened = frame :: outer →
    frame.scope = scope → b.entities = en → b.pending = [] →
    ∃ b', b.run es = .ok b' ∧ b'.entities = en' ∧ b'.root = b.root ∧
      b'.flush.opened = { frame with children := ts.reverse ++ frame.children } :: outer

section

variable {outer : List Declaration} {en en₁ en₂ en' : Entities} {es es₁ es₂ : List (Event × Nat)}
  {tag : Tag} {e : Element} {line line' : Nat} {ps : List Piece} {t : Tree} {ts children : List Tree}

theorem treeRuns_empty (h : tag.Spells en outer e) :
    TreeRuns outer en [(.empty tag, line)] (.element line e []) en := by
  intro b hs he hr
  subst hs he
  have hstart : b.start tag line = .ok (b.enter e line) := start_eq_ok.2 ⟨hr, e, h, rfl⟩
  have hpending : (b.enter e line).pending = [] := pending_flush b
  obtain ⟨b', hstop, hp, he, ho, hroot⟩ :=
    stop_of_opened_flush (flush_of_pending hpending) b.flush rfl rfl
  refine ⟨b', run_cons_eq_ok.2 ⟨b', ?_, rfl⟩, hp, he.trans (entities_flush b), ho, hroot⟩
  exact bind_eq_ok.2 ⟨_, hstart, hstop⟩

theorem treeRuns_element (h : tag.Spells en outer e)
    (hc : ContentRuns (e.declarations.reverse ++ outer) en es children en') :
    TreeRuns outer en ((.start tag, line) :: (es ++ [(.stop tag.name, line')]))
      (.element line e children) en' := by
  intro b hs he hr
  subst hs he
  have hstart : b.start tag line = .ok (b.enter e line) := start_eq_ok.2 ⟨hr, e, h, rfl⟩
  obtain ⟨b₁, h₁, he₁, hr₁, ho₁⟩ :=
    hc (b.enter e line) _ _ rfl rfl (entities_flush b) (pending_flush b)
  obtain ⟨b', hstop, hp, he, ho, hroot⟩ := stop_of_opened_flush ho₁ b.flush rfl hr₁.symm
  simp only [List.append_nil, List.reverse_reverse] at ho hroot
  refine ⟨b', run_cons_eq_ok.2 ⟨_, hstart, ?_⟩, hp, he.trans he₁, ho, hroot⟩
  rw [run_append, h₁]
  exact run_cons_eq_ok.2 ⟨b', hstop, rfl⟩

theorem contentRuns_pieces (h : Pieces en es ps en') : ContentRuns outer en es (textOf ps) en' := by
  intro b frame outer ho hs he hp
  obtain ⟨b', h', ho', hr', he', hw'⟩ := (waits_nil hp).run h (ho ▸ List.cons_ne_nil _ _) he
  refine ⟨b', h', he', hr', ?_⟩
  rw [textOf_reverse]
  exact hw'.opened_flush (ho'.trans ho)

theorem contentRuns_child (h : Pieces en es ps en₁) (ht : TreeRuns outer en₁ es₁ t en₂)
    (hts : ContentRuns outer en₂ es₂ ts en') :
    ContentRuns outer en (es ++ es₁ ++ es₂) (textOf ps ++ t :: ts) en' := by
  intro b frame frames ho hs he hp
  obtain ⟨b₁, h₁, ho₁, hr₁, he₁, hw₁⟩ := (waits_nil hp).run h (ho ▸ List.cons_ne_nil _ _) he
  rw [List.nil_append] at hw₁
  have hflush := hw₁.opened_flush (ho₁.trans ho)
  have hne : ¬ (b₁.opened = [] ∧ b₁.root.isSome) := by
    rw [ho₁, ho]
    exact fun h => List.cons_ne_nil _ _ h.1
  have hs₁ : scopeOf b₁.opened = outer := by rw [ho₁, ho]; exact hs
  obtain ⟨b₂, h₂, hp₂, he₂, ho₂, hr₂⟩ := ht b₁ hs₁ he₁ hne
  rw [opened_attach hflush] at ho₂
  obtain ⟨b', h', he', hr', ho'⟩ := hts b₂ _ _ ho₂ hs he₂ hp₂
  refine ⟨b', ?_, he', ?_, ?_⟩
  · rw [run_append, run_append, h₁]
    exact bind_eq_ok.2 ⟨b₂, h₂, h'⟩
  · rw [hr', hr₂, ← hr₁, ← root_flush b₁]
    simp only [attach, hflush]
  · rw [ho']
    simp [textOf_reverse]

/-- **The events of an element add that element** to what contains it. -/
theorem TreeEvents.runs (h : TreeEvents outer en es t en') : TreeRuns outer en es t en' := by
  -- along the two derivations, one case for each of their four rules
  apply @TreeEvents.rec (fun outer en es t en' _ => TreeRuns outer en es t en')
    (fun scope en es ts en' _ => ContentRuns scope en es ts en') ?_ ?_ ?_ ?_ _ _ _ _ _ h
  · intro _ _ _ _ _ h
    exact treeRuns_empty h
  · intro _ _ _ _ _ _ _ _ _ h _ hc
    exact treeRuns_element h hc
  · intro _ _ _ _ _ h
    exact contentRuns_pieces h
  · intro _ _ _ _ _ _ _ _ _ _ _ h _ _ ht hts
    exact contentRuns_child h ht hts

end

/-- **The builder rebuilds the tree that its events spell.** -/
theorem Traversal.buildTree {es : List (Event × Nat)} {t : Tree} (h : Traversal es t)
    (lastLine : Nat) : buildTree es lastLine = .ok t := by
  obtain ⟨before, middle, after, blanks, blanks', en, en', en'', rfl, hbefore, hblank, ht, hafter,
    hblank'⟩ := h
  -- outside the element the builder only reads entities
  have h₁ := run_blank hbefore (b := initial) rfl rfl hblank
  obtain ⟨b₂, h₂, -, he₂, ho₂, hr₂⟩ := ht.runs { initial with entities := en } rfl rfl
    (fun h => by simp [initial] at h)
  have h₃ := run_blank hafter ho₂ he₂ hblank'
  refine buildTree_eq_ok.2 ⟨{ b₂ with entities := en'' }, ?_, ho₂, hr₂⟩
  rw [run_append, run_append, h₁]
  exact bind_eq_ok.2 ⟨b₂, h₂, h₃⟩

end XmlAudit.Xml
