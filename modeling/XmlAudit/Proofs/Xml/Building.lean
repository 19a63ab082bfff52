import XmlAudit.Proofs.Xml.Opening
import XmlAudit.Proofs.Xml.Placement
import XmlAudit.Xml.Parse

/-!
# What the builder keeps

* `Tree.Built`: no text is empty or next to another one, and every element is resolved in the
  declarations around it.
* `Builder.Sound`: the invariant of the builder between two events.
* `Builder.Sound.step`: every event keeps it.
* `Tree.parse_built`: the tree of a document is built.
-/

namespace XmlAudit.Xml

/-- No two texts stand next to each other. -/
def Separated (ts : List Tree) : Prop :=
  ts.IsChain fun a b => a.IsElement ∨ b.IsElement

mutual

/-- **A tree as the builder leaves it** inside the declarations `outer`: texts are neither empty nor
next to one another, and elements are resolved in the declarations in force inside them. -/
def Tree.Built (outer : List Declaration) : Tree → Prop
  | .text _ content => content ≠ ""
  | .element _ e children =>
    e.Resolved (e.declarations.reverse ++ outer) ∧ Separated children ∧
      AllBuilt (e.declarations.reverse ++ outer) children

/-- The same of several trees. -/
def AllBuilt (outer : List Declaration) : List Tree → Prop
  | [] => True
  | t :: ts => t.Built outer ∧ AllBuilt outer ts

end

theorem allBuilt_iff {outer : List Declaration} {ts : List Tree} :
    AllBuilt outer ts ↔ ∀ t ∈ ts, t.Built outer := by
  induction ts with
  | nil => simp [AllBuilt]
  | cons t ts ih => simp [AllBuilt, ih]

theorem separated_reverse {ts : List Tree} (h : Separated ts) : Separated ts.reverse := by
  rw [Separated, List.isChain_reverse]
  exact h.imp fun a b => Or.symm

theorem separated_cons {t : Tree} {ts : List Tree} :
    Separated (t :: ts) ↔ (∀ u ∈ ts.head?, t.IsElement ∨ u.IsElement) ∧ Separated ts := by
  rw [Separated, List.isChain_cons]; rfl

/-- The declarations in force inside a stack of open elements. -/
def scopeOf : List Frame → List Declaration
  | [] => []
  | frame :: _ => frame.scope

/-- Every open element is resolved inside those around it, and its children so far are built. -/
def Stacked : List Frame → Prop
  | [] => True
  | frame :: outer =>
    frame.scope = frame.element.declarations.reverse ++ scopeOf outer ∧
      frame.element.Resolved frame.scope ∧ Separated frame.children ∧
      AllBuilt frame.scope frame.children ∧ Stacked outer

/-- The innermost open element does not end with a text so far. -/
def Flushable : List Frame → Prop
  | [] => True
  | frame :: _ => ∀ t ∈ frame.children.head?, t.IsElement

namespace Builder

/-- **The invariant of the builder** between two events. -/
structure Sound (b : Builder) : Prop where
  stacked : Stacked b.opened
  flushable : Flushable b.opened
  root : ∀ t ∈ b.root, t.IsElement ∧ t.Built []

theorem sound_initial : initial.Sound :=
  ⟨trivial, trivial, fun t ht => by simp [initial] at ht⟩

variable {b b' : Builder}

/-- Pending character data becomes the last text so far of the innermost open element, if there are
both. -/
theorem opened_flush (b : Builder) :
    (b.pending = [] ∨ b.opened = []) ∧ b.flush.opened = b.opened ∨
    ∃ frame outer, b.opened = frame :: outer ∧ b.pending ≠ [] ∧
      b.flush.opened = { frame with
        children := .text b.pendingLine (String.ofList b.pending) :: frame.children } :: outer := by
  unfold flush
  split
  · next hp => exact .inl ⟨.inl hp, rfl⟩
  · next ho _ => exact .inl ⟨.inr ho, rfl⟩
  · next frame outer ho hp => exact .inr ⟨frame, outer, ho, hp, rfl⟩

@[simp] theorem root_flush (b : Builder) : b.flush.root = b.root := by
  unfold flush; split <;> rfl

@[simp] theorem entities_flush (b : Builder) : b.flush.entities = b.entities := by
  unfold flush; split <;> rfl

@[simp] theorem pending_flush (b : Builder) : b.flush.pending = [] := by
  unfold flush; split <;> first | assumption | rfl

theorem scopeOf_opened_flush (b : Builder) : scopeOf b.flush.opened = scopeOf b.opened := by
  obtain ⟨-, h⟩ | ⟨frame, outer, h, -, h'⟩ := b.opened_flush
  · rw [h]
  · rw [h, h']; rfl

theorem Sound.stacked_flush (h : b.Sound) : Stacked b.flush.opened := by
  obtain ⟨-, h'⟩ | ⟨frame, outer, ho, hp, h'⟩ := b.opened_flush
  · rw [h']; exact h.stacked
  · have hs := h.stacked
    have hf := h.flushable
    rw [ho] at hs hf
    obtain ⟨hscope, hres, hsep, hall, houter⟩ := hs
    rw [h']
    refine ⟨hscope, hres, separated_cons.2 ⟨fun u hu => .inr (hf u hu), hsep⟩, ⟨?_, hall⟩, houter⟩
    simpa [Tree.Built] using hp

/-- The builder inside a new element, behind the text before it. -/
def enter (b : Builder) (e : Element) (line : Nat) : Builder :=
  { b.flush with opened := ⟨e, line, e.declarations.reverse ++ scopeOf b.opened, []⟩ :: b.flush.opened }

/-- What a start tag does: it opens the element that it spells. -/
theorem start_eq_ok {tag : Tag} {line : Nat} :
    b.start tag line = .ok b' ↔ ¬ (b.opened = [] ∧ b.root.isSome) ∧
      ∃ e, tag.Spells b.entities (scopeOf b.opened) e ∧ b' = b.enter e line := by
  have hscope : (b.flush.opened.head?.map (·.scope)).getD [] = scopeOf b.opened := by
    rw [← scopeOf_opened_flush]; cases b.flush.opened <;> rfl
  unfold start
  rw [← List.isEmpty_iff, ← Bool.and_eq_true]
  split
  · next h => simp [h]
  · next h =>
    simp only [hscope]
    rw [bind_eq_ok]
    constructor
    · rintro ⟨⟨e, scope⟩, he, hb⟩
      obtain ⟨hs, rfl⟩ := openElement_eq_ok.1 he
      rw [entities_flush] at hs
      cases hb
      exact ⟨h, e, hs, rfl⟩
    · rintro ⟨-, e, hs, rfl⟩
      rw [← entities_flush] at hs
      exact ⟨_, openElement_eq_ok.2 ⟨hs, rfl⟩, rfl⟩

/-- What an end tag does: the innermost open element is added to what contains it. -/
theorem stop_eq_ok :
    b.stop = .ok b' ↔ ∃ frame outer, b.flush.opened = frame :: outer ∧
      b' = ({ b.flush with opened := outer } : Builder).attach
        (.element frame.line frame.element frame.children.reverse) := by
  simp only [stop]
  split
  · next h => simp [h]
  · next frame outer h =>
    rw [h]
    constructor
    · intro hb; cases hb; exact ⟨frame, outer, rfl, rfl⟩
    · rintro ⟨f, o, ho, rfl⟩; cases ho; rfl

/-- What character data does: it is blank, or waits for the next tag inside an open element. -/
theorem append_eq_ok {text : List Char} {line : Nat} :
    b.append text line = .ok b' ↔
      (b.opened = [] ∧ text.all Text.isBlank ∧ b' = b) ∨
      (b.opened ≠ [] ∧ b' = { b with
        pendingLine := if b.pending.isEmpty then line else b.pendingLine
        pending := b.pending ++ text }) := by
  simp only [append]
  split
  · next h =>
    rw [List.isEmpty_iff] at h
    split
    · next hb =>
      rw [Except.ok.injEq]
      exact ⟨fun he => .inl ⟨h, hb, he.symm⟩, fun hr => hr.elim (·.2.2.symm) fun hr => absurd h hr.1⟩
    · next hb => simp [h, hb]
  · next h =>
    rw [List.isEmpty_iff] at h
    rw [Except.ok.injEq]
    exact ⟨fun he => .inr ⟨h, he.symm⟩, fun hr => hr.elim (fun hr => absurd hr.1 h) (·.2.symm)⟩

theorem Sound.start {tag : Tag} {line : Nat} (h : b.Sound) (hb : b.start tag line = .ok b') :
    b'.Sound := by
  obtain ⟨-, e, he, rfl⟩ := start_eq_ok.1 hb
  refine ⟨⟨?_, he.resolved, List.IsChain.nil, trivial, h.stacked_flush⟩, ?_, ?_⟩
  · rw [scopeOf_opened_flush]
  · intro t ht; cases ht
  · simpa [enter] using h.root

theorem Sound.stop (h : b.Sound) (hb : b.stop = .ok b') : b'.Sound := by
  obtain ⟨frame, outer, ho, rfl⟩ := stop_eq_ok.1 hb
  have hs := h.stacked_flush
  rw [ho] at hs
  obtain ⟨hscope, hres, hsep, hall, houter⟩ := hs
  have htree : (Tree.element frame.line frame.element frame.children.reverse).Built
      (scopeOf outer) := by
    refine ⟨hscope ▸ hres, separated_reverse hsep, ?_⟩
    rw [allBuilt_iff] at hall ⊢
    intro t ht
    rw [← hscope]
    exact hall t (List.mem_reverse.1 ht)
  cases outer with
  | nil =>
    -- the document element is complete
    refine ⟨trivial, trivial, fun t ht => ?_⟩
    cases ht
    exact ⟨trivial, htree⟩
  | cons parent outer =>
    obtain ⟨hscope', hres', hsep', hall', houter'⟩ := houter
    refine ⟨⟨hscope', hres', ?_, ⟨htree, hall'⟩, houter'⟩, ?_, ?_⟩
    · exact separated_cons.2 ⟨fun u _ => .inl trivial, hsep'⟩
    · intro t ht; cases ht; trivial
    · simpa [attach] using h.root

theorem Sound.append {text : List Char} {line : Nat} (h : b.Sound)
    (hb : b.append text line = .ok b') : b'.Sound := by
  rcases append_eq_ok.1 hb with ⟨-, -, rfl⟩ | ⟨-, rfl⟩
  · exact h
  · exact ⟨h.stacked, h.flushable, h.root⟩

/-- **Every event keeps the invariant.** -/
theorem Sound.step {event : Event} {line : Nat} (h : b.Sound) (hb : b.step event line = .ok b') :
    b'.Sound := by
  cases event with
  | start tag => exact h.start hb
  | empty tag =>
    obtain ⟨m, hm, hb⟩ := bind_eq_ok.1 hb
    exact (h.start hm).stop hb
  | stop name => exact h.stop hb
  | text raw =>
    simp only [Builder.step] at hb
    split at hb
    · exact h.append hb
    · cases hb
  | cdata text => exact h.append hb
  | doctype content => cases hb; exact ⟨h.stacked, h.flushable, h.root⟩
  | other => cases hb; exact h

theorem run_cons {event : Event} {line : Nat} {es : List (Event × Nat)} :
    b.run ((event, line) :: es) = (b.step event line).mapError (⟨line, ·⟩) >>= (·.run es) := by
  rw [run]
  cases b.step event line <;> rfl

theorem run_append {es es' : List (Event × Nat)} :
    b.run (es ++ es') = b.run es >>= (·.run es') := by
  induction es generalizing b with
  | nil => rfl
  | cons e es ih =>
    obtain ⟨event, line⟩ := e
    rw [List.cons_append, run_cons, run_cons]
    cases b.step event line with
    | error fault => rfl
    | ok next => exact ih

/-- One event succeeds before the rest. -/
theorem run_cons_eq_ok {event : Event} {line : Nat} {es : List (Event × Nat)} :
    b.run ((event, line) :: es) = .ok b' ↔
      ∃ next, b.step event line = .ok next ∧ next.run es = .ok b' := by
  rw [run_cons, bind_eq_ok]
  simp only [mapError_eq_ok]

/-- One event succeeds behind the others. -/
theorem run_concat_eq_ok {event : Event} {line : Nat} {es : List (Event × Nat)} :
    b.run (es ++ [(event, line)]) = .ok b' ↔ ∃ m, b.run es = .ok m ∧ m.step event line = .ok b' := by
  simp only [run_append, bind_eq_ok, run_cons_eq_ok]
  simp [run]

theorem Sound.run {es : List (Event × Nat)} (h : b.Sound) (hb : b.run es = .ok b') : b'.Sound := by
  induction es generalizing b with
  | nil => cases hb; exact h
  | cons e es ih =>
    obtain ⟨event, line⟩ := e
    obtain ⟨next, hstep, hrun⟩ := run_cons_eq_ok.1 hb
    exact ih (h.step hstep) hrun

theorem finish_eq_ok {t : Tree} : b.finish = .ok t ↔ b.opened = [] ∧ b.root = some t := by
  unfold finish
  split <;> simp_all

end Builder

/-- The tree of a list of events with their lines, of which the last line is `lastLine`. -/
def buildTree (es : List (Event × Nat)) (lastLine : Nat) : Except Malformed Tree := do
  let builder ← Builder.initial.run es
  builder.finish.mapError (⟨lastLine, ·⟩)

theorem buildTree_eq_ok {es : List (Event × Nat)} {lastLine : Nat} {t : Tree} :
    buildTree es lastLine = .ok t ↔
      ∃ b, Builder.initial.run es = .ok b ∧ b.opened = [] ∧ b.root = some t := by
  simp only [buildTree, bind_eq_ok, mapError_eq_ok, Builder.finish_eq_ok]

/-- **Whatever is built is an element and built.** -/
theorem buildTree_built {es : List (Event × Nat)} {lastLine : Nat} {t : Tree}
    (h : buildTree es lastLine = .ok t) : t.IsElement ∧ t.Built [] := by
  obtain ⟨b, hrun, -, hroot⟩ := buildTree_eq_ok.1 h
  exact (Builder.sound_initial.run hrun).root t hroot

/-- The events of a source with their lines. -/
def numberedEvents (source : List Char) : List (Event × Nat) :=
  ((LineCursor.start source).number (events source).1).1

/-- The line on which the events of a source end. -/
def lastLine (source : List Char) : Nat :=
  (((LineCursor.start source).number (events source).1).2.advance (events source).2.position).line

/-- **The tree of a source is built from its events**, once all of the source is read. -/
theorem parseTree_eq_buildTree {source : List Char} (h : (events source).2.fault = none) :
    parseTree source = buildTree (numberedEvents source) (lastLine source) := by
  rw [parseTree, buildTree, numberedEvents, lastLine]
  simp only [h]

theorem parseTree_eq_ok {source : List Char} {t : Tree} :
    parseTree source = .ok t ↔
      (events source).2.fault = none ∧
        buildTree (numberedEvents source) (lastLine source) = .ok t := by
  cases h : (events source).2.fault with
  | none => rw [parseTree_eq_buildTree h]; simp
  | some fault =>
    rw [parseTree, bind_eq_ok]
    simp only [h]
    constructor
    · rintro ⟨b, -, hb⟩; cases hb
    · rintro ⟨hb, -⟩; cases hb

theorem Tree.parse_eq_ok {bytes : List UInt8} {t : Tree} :
    Tree.parse bytes = .ok t ↔ ∃ source, decodeSource bytes = .ok source ∧ parseTree source = .ok t := by
  simp only [Tree.parse, bind_eq_ok, mapError_eq_ok]

theorem Document.parse_eq_ok {bytes : List UInt8} {d : Document} :
    Document.parse bytes = .ok d ↔ ∃ t, Tree.parse bytes = .ok t ∧ d = .ofTree t := by
  rw [Document.parse, bind_eq_ok]
  constructor
  · rintro ⟨t, ht, hd⟩; cases hd; exact ⟨t, ht, rfl⟩
  · rintro ⟨t, ht, rfl⟩; exact ⟨t, ht, rfl⟩

/-- A document is told by its nodes, the equality of which can be decided. -/
theorem Document.parse_eq_ok_of_nodes {bytes : List UInt8} {d : Document}
    (h : (Document.parse bytes).toOption.map (·.nodes) = some d.nodes) :
    Document.parse bytes = .ok d := by
  obtain ⟨⟨nodes⟩, hparse, rfl⟩ := Option.map_eq_some_iff.1 h
  exact toOption_eq_some.1 hparse

/-- **The tree of a document is an element and built.** -/
theorem Tree.parse_built {bytes : List UInt8} {t : Tree} (h : Tree.parse bytes = .ok t) :
    t.IsElement ∧ t.Built [] := by
  obtain ⟨source, -, hparse⟩ := Tree.parse_eq_ok.1 h
  exact buildTree_built (parseTree_eq_ok.1 hparse).2

end XmlAudit.Xml
