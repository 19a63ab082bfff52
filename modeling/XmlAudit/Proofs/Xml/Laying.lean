import XmlAudit.Proofs.Xml.Extents
import XmlAudit.Proofs.Xml.Rejection

/-!
# In what order nodes are laid

* `Tree.heads`: the nodes of a tree in document order with their lines.
* `Builder.laid`: those that a builder has laid so far.
* `Builder.Lays`: what it has laid of the events behind it: an element for every tag, on its line.
* `buildTree_lays`: the elements and lines of the tree of a list of events.
-/

namespace XmlAudit.Xml

/-! ## Heads -/

/-- A node without its neighbours: what it is and its line. -/
abbrev Head := NodeKind × Nat

mutual

/-- The nodes of a tree in document order. -/
def Tree.heads : Tree → List Head
  | .text line content => [(.text content, line)]
  | .element line e children => (.element e, line) :: headsAll children

/-- The nodes of sibling trees in document order. -/
def headsAll : List Tree → List Head
  | [] => []
  | t :: ts => t.heads ++ headsAll ts

end

theorem headsAll_append (ts us : List Tree) : headsAll (ts ++ us) = headsAll ts ++ headsAll us := by
  induction ts with
  | nil => rfl
  | cons t ts ih => rw [List.cons_append, headsAll, headsAll, ih, List.append_assoc]

mutual

/-- Nodes are numbered in this order. -/
theorem Tree.map_nodes (p s : NodeId) : ∀ t : Tree,
    (t.nodes p s).map (fun n => (n.kind, n.line)) = t.heads
  | .text _ _ => rfl
  | .element _ _ children => by
    rw [Tree.nodes, List.map_cons, map_forestNodes s (s + 1) children, Tree.heads]

theorem map_forestNodes (p s : NodeId) : ∀ ts : List Tree,
    (forestNodes p s ts).map (fun n => (n.kind, n.line)) = headsAll ts
  | [] => rfl
  | t :: ts => by
    rw [forestNodes, List.map_append, t.map_nodes p s, map_forestNodes p (s + t.size) ts, headsAll]

end

/-- The element of a node, with its line. -/
def Head.element? : Head → Option (Element × Nat)
  | (.element e, line) => some (e, line)
  | _ => none

/-- The elements among nodes, with their lines. -/
def elementsOf (hs : List Head) : List (Element × Nat) := hs.filterMap Head.element?

theorem tagged_concat {α : Type} (es : List (Event × α)) (e : Event × α) :
    tagged (es ++ [e]) = tagged es ++ (e.1.tag?.map (·, e.2)).toList := by
  rw [tagged, tagged, List.filterMap_append]
  cases h : e.1.tag? <;> simp [h]

theorem elementsOf_append (hs hs' : List Head) :
    elementsOf (hs ++ hs') = elementsOf hs ++ elementsOf hs' := List.filterMap_append

/-! ## What is laid -/

/-- The nodes laid inside a stack of open elements, the outermost first. -/
def laidIn : List Frame → List Head
  | [] => []
  | frame :: outer => laidIn outer ++ (.element frame.element, frame.line) ::
      headsAll frame.children.reverse

namespace Builder

/-- The nodes that a builder has laid. -/
def laid (b : Builder) : List Head := (b.root.map Tree.heads).getD [] ++ laidIn b.opened

/-- Their lines, and the line of the text that is laid next. -/
def lines (b : Builder) : List Nat :=
  b.laid.map (·.2) ++ if b.pending = [] then [] else [b.pendingLine]

/-- A tag spells an element somewhere, on a line. -/
def LaidAs (t : Tag × Nat) (e : Element × Nat) : Prop :=
  e.2 = t.2 ∧ ∃ entities outer, t.1.Spells entities outer e.1

/-- **What a builder has laid of the events behind it**: an element for every tag, in their order and
on their lines; the lines of all nodes are lines of events and do not decrease. -/
structure Lays (es : List (Event × Nat)) (b : Builder) : Prop where
  elements : List.Forall₂ LaidAs (tagged es) (elementsOf b.laid)
  known : ∀ line ∈ b.lines, line ∈ es.map (·.2)
  sorted : b.lines.Pairwise (· ≤ ·)
  root : b.opened ≠ [] → b.root = none

theorem lays_initial : Lays [] initial :=
  ⟨.nil, fun _ h => absurd h List.not_mem_nil, .nil, fun h => absurd rfl h⟩

variable {b b' : Builder} {es : List (Event × Nat)} {event : Event} {line : Nat}

/-- The waiting text is laid, if it is inside an element. -/
theorem laid_flush (b : Builder) :
    elementsOf b.flush.laid = elementsOf b.laid ∧ (b.flush.laid.map (·.2)).Sublist b.lines := by
  obtain ⟨-, h⟩ | ⟨frame, outer, ho, hp, h⟩ := b.opened_flush
  · rw [laid, root_flush, h, ← laid]
    exact ⟨rfl, List.sublist_append_left _ _⟩
  · have hlaid : b.flush.laid =
        b.laid ++ [(.text (String.ofList b.pending), b.pendingLine)] := by
      rw [laid, laid, root_flush, h, ho]
      simp [laidIn, headsAll_append, headsAll, Tree.heads]
    rw [hlaid, elementsOf_append, List.map_append, lines, if_neg hp]
    exact ⟨List.append_nil _, List.Sublist.refl _⟩

theorem lines_of_pending (h : b.pending = []) : b.lines = b.laid.map (·.2) := by
  rw [lines, if_pos h, List.append_nil]

/-- What an event does that lays no element. -/
theorem Lays.keep (h : Lays es b) (htag : event.tag? = none)
    (helements : elementsOf b'.laid = elementsOf b.laid)
    (hlines : b'.lines.Sublist (b.lines ++ [line])) (hline : ∀ l ∈ es.map (·.2), l ≤ line)
    (hroot : b'.opened ≠ [] → b'.root = none) : Lays (es ++ [(event, line)]) b' := by
  refine ⟨?_, fun l hl => ?_, ?_, hroot⟩
  · rw [helements, tagged_concat, htag]
    simpa using h.elements
  · rw [List.map_append, List.mem_append]
    rcases List.mem_append.1 (hlines.subset hl) with hl | hl
    · exact .inl (h.known l hl)
    · exact .inr hl
  · refine List.Pairwise.sublist hlines (List.pairwise_append.2
      ⟨h.sorted, List.pairwise_singleton _ _, fun l hl l' hl' => ?_⟩)
    rw [List.mem_singleton.1 hl']
    exact hline l (h.known l hl)

/-- What an event does that lays an element. -/
theorem Lays.tag {tag : Tag} {e : Element} (h : Lays es b) (htag : event.tag? = some tag)
    (hspells : ∃ entities outer, tag.Spells entities outer e)
    (hlaid : b'.laid = b.flush.laid ++ [(.element e, line)]) (hpending : b'.pending = [])
    (hline : ∀ l ∈ es.map (·.2), l ≤ line) (hroot : b'.opened ≠ [] → b'.root = none) :
    Lays (es ++ [(event, line)]) b' := by
  obtain ⟨helements, hlines⟩ := b.laid_flush
  have hbefore : ∀ l ∈ b.flush.laid.map (·.2), l ∈ es.map (·.2) := fun l hl =>
    h.known l (hlines.subset hl)
  refine ⟨?_, ?_, ?_, hroot⟩
  · rw [tagged_concat, htag, hlaid, elementsOf_append, helements]
    exact List.rel_append h.elements (.cons ⟨rfl, hspells⟩ .nil)
  · rw [lines_of_pending hpending, hlaid, List.map_append, List.map_append]
    intro l hl
    rcases List.mem_append.1 hl with hl | hl
    · exact List.mem_append_left _ (hbefore l hl)
    · exact List.mem_append_right _ hl
  · rw [lines_of_pending hpending, hlaid, List.map_append]
    refine List.pairwise_append.2
      ⟨h.sorted.sublist hlines, List.pairwise_singleton _ _, fun l hl l' hl' => ?_⟩
    rw [List.mem_singleton.1 hl']
    exact hline l (hbefore l hl)

/-- A start tag lays its element behind the waiting text. -/
theorem laid_start {tag : Tag} (hroot : b.opened ≠ [] → b.root = none)
    (hb : b.start tag line = .ok b') : ∃ e, (∃ entities outer, tag.Spells entities outer e) ∧
      b'.laid = b.flush.laid ++ [(.element e, line)] ∧ b'.pending = [] ∧ b'.root = none := by
  obtain ⟨hfirst, e, he, rfl⟩ := start_eq_ok.1 hb
  refine ⟨e, ⟨_, _, he⟩, ?_, pending_flush b, ?_⟩
  · simp [laid, enter, laidIn, headsAll]
  · have hnone : b.root = none := by
      by_cases ho : b.opened = []
      · exact Option.not_isSome_iff_eq_none.1 fun hr => hfirst ⟨ho, hr⟩
      · exact hroot ho
    exact (root_flush b).trans hnone

/-- An end tag lays the waiting text. -/
theorem laid_stop (hroot : b.opened ≠ [] → b.root = none) (hb : b.stop = .ok b') :
    b'.laid = b.flush.laid ∧ b'.pending = [] ∧ (b'.opened ≠ [] → b'.root = none) := by
  obtain ⟨frame, outer, ho, rfl⟩ := stop_eq_ok.1 hb
  have hne : b.opened ≠ [] := by
    intro hnil
    have hsame := elements_flush b
    simp [ho, hnil] at hsame
  have hnone := hroot hne
  refine ⟨?_, by simp, ?_⟩
  · rw [laid, laid, root_flush, hnone, ho]
    cases outer with
    | nil => simp [attach, laidIn, Tree.heads]
    | cons parent outer =>
      simp [attach, laidIn, headsAll_append, headsAll, Tree.heads, hnone]
  · cases outer with
    | nil => exact fun hopened => absurd rfl hopened
    | cons parent outer => exact fun _ => by simpa [attach] using hnone

theorem laid_append {text : List Char} (hroot : b.opened ≠ [] → b.root = none)
    (hb : b.append text line = .ok b') :
    b'.laid = b.laid ∧ b'.lines.Sublist (b.lines ++ [line]) ∧ (b'.opened ≠ [] → b'.root = none) := by
  rcases append_eq_ok.1 hb with ⟨-, -, rfl⟩ | ⟨-, rfl⟩
  · exact ⟨rfl, List.sublist_append_left _ _, hroot⟩
  · refine ⟨rfl, ?_, hroot⟩
    by_cases hp : b.pending = []
    · rw [lines_of_pending hp, lines]
      refine List.Sublist.append_left ?_ _
      rw [hp, List.isEmpty_nil, if_pos rfl]
      by_cases htext : text = []
      · simp [htext]
      · simp [htext]
    · have hsame : ∀ text, ¬b.pending ++ text = [] := fun text hnil => hp (List.append_eq_nil_iff.1 hnil).1
      rw [lines, lines, if_neg hp, if_neg (hsame text)]
      simp only [List.isEmpty_eq_false_iff.2 hp, Bool.false_eq_true, if_false]
      exact List.sublist_append_left _ _

/-- **Every event is laid.** -/
theorem Lays.step (h : Lays es b) (hline : ∀ l ∈ es.map (·.2), l ≤ line)
    (hb : b.step event line = .ok b') : Lays (es ++ [(event, line)]) b' := by
  cases event with
  | start tag =>
    obtain ⟨e, he, hlaid, hpending, hroot⟩ := laid_start h.root hb
    exact h.tag rfl he hlaid hpending hline fun _ => hroot
  | empty tag =>
    obtain ⟨m, hm, hstop⟩ := bind_eq_ok.1 hb
    obtain ⟨e, he, hlaid, hpending, hroot⟩ := laid_start h.root hm
    obtain ⟨hlaid', hpending', hroot'⟩ := laid_stop (fun _ => hroot) hstop
    -- the tag is closed at once, so no text is pending that a flush could add
    have hflush : m.flush.laid = m.laid := by
      rw [laid, laid, root_flush, flush_of_pending hpending]
    exact h.tag rfl he (hlaid'.trans (hflush.trans hlaid)) hpending' hline hroot'
  | stop name =>
    obtain ⟨hlaid, hpending, hroot⟩ := laid_stop h.root hb
    obtain ⟨helements, hlines⟩ := b.laid_flush
    refine h.keep rfl (by rw [hlaid, helements]) ?_ hline hroot
    rw [lines_of_pending hpending, hlaid]
    exact hlines.trans (List.sublist_append_left _ _)
  | text raw =>
    simp only [Builder.step] at hb
    split at hb
    · obtain ⟨hlaid, hlines, hroot⟩ := laid_append h.root hb
      exact h.keep rfl (by rw [hlaid]) hlines hline hroot
    · cases hb
  | cdata text =>
    obtain ⟨hlaid, hlines, hroot⟩ := laid_append h.root hb
    exact h.keep rfl (by rw [hlaid]) hlines hline hroot
  | doctype content =>
    cases hb
    exact h.keep rfl rfl (List.sublist_append_left _ _) hline h.root
  | other =>
    cases hb
    exact h.keep rfl rfl (List.sublist_append_left _ _) hline h.root

/-- **All events are laid**, if their lines do not decrease. -/
theorem lays_of_run (hsorted : (es.map (·.2)).Pairwise (· ≤ ·)) (hb : initial.run es = .ok b) :
    Lays es b := by
  -- by induction from the end, as each event is laid behind all before it
  induction es using List.reverseRecOn generalizing b with
  | nil =>
    cases hb
    exact lays_initial
  | append_singleton es e ih =>
    obtain ⟨event, line⟩ := e
    obtain ⟨m, hm, hstep⟩ := run_concat_eq_ok.1 hb
    rw [List.map_append, List.pairwise_append] at hsorted
    exact (ih hsorted.1 hm).step (fun l hl => hsorted.2.2 l hl line List.mem_cons_self) hstep

end Builder

/-- **The nodes of the tree of a list of events**: an element for every tag, in their order and on
their lines; all nodes are on lines of events, which do not decrease. -/
theorem buildTree_lays {es : List (Event × Nat)} {lastLine : Nat} {t : Tree}
    (hsorted : (es.map (·.2)).Pairwise (· ≤ ·)) (h : buildTree es lastLine = .ok t) :
    List.Forall₂ Builder.LaidAs (tagged es) (elementsOf t.heads) ∧
      (∀ line ∈ t.heads.map (·.2), line ∈ es.map (·.2)) ∧ (t.heads.map (·.2)).Pairwise (· ≤ ·) := by
  obtain ⟨b, hrun, hopened, hroot⟩ := buildTree_eq_ok.1 h
  have hlays := Builder.lays_of_run hsorted hrun
  have hlaid : b.laid = t.heads := by simp [Builder.laid, hopened, hroot, laidIn]
  have hlines : (t.heads.map (·.2)).Sublist b.lines := by
    rw [← hlaid]
    exact List.sublist_append_left _ _
  exact ⟨hlaid ▸ hlays.elements, fun line hline => hlays.known line (hlines.subset hline),
    hlays.sorted.sublist hlines⟩

end XmlAudit.Xml
