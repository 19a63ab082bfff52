import XmlAudit.Proofs.Text.Letters
import XmlAudit.Proofs.Text.Utf8
import XmlAudit.Proofs.Xml.Numbering
import XmlAudit.Proofs.Xml.Printing
import XmlAudit.Proofs.Xml.Traversal

/-!
# Reading back what is written

* `decodeSource_render`: the characters of a written document.
* `Markup.IsTree`: the trees of a written element, with line breaks between its children.
* `Document.Shows`: a node of a document shows an element.
* `parse_render`: the document of a written element shows that element.
-/

namespace XmlAudit.Xml

open Text (Encoding dropWord_eq_some_iff)

/-! ## Characters -/

/-- Where no declaration starts, the search for one goes on. -/
theorem findLabel?_skip {before c : Char} {cs : List Char}
    (h : Text.dropWord "encoding".toList (c :: cs) = none) (hc : c ≠ '>') :
    findLabel? before (c :: cs) = findLabel? c cs := by
  have hlabel : labelAt? (c :: cs) = none := by rw [labelAt?, h]; rfl
  rw [findLabel?, hlabel, ite_self]
  exact if_neg hc

/-- The declaration with which written documents start names their encoding. -/
theorem declaredLabel?_declaration (cs : List Char) :
    declaredLabel? (declaration.toList ++ cs) = some "UTF-8" := by
  have hd : declaration.toList =
      "<?xml".toList ++ ' ' :: (['v', 'e', 'r', 's', 'i', 'o', 'n', '=', '"', '1', '.', '0', '"', ' ']
        ++ "encoding=\"UTF-8\"?>".toList) := by
    decide
  have hstart : (declaration.toList ++ cs).dropWhile Text.isBlank = declaration.toList ++ cs := by
    obtain ⟨content, hd, -, -⟩ := declaration_eq
    rw [hd, List.cons_append, List.dropWhile_cons_of_neg (by decide)]
  have hlabel : labelAt? ("encoding=\"UTF-8\"?>".toList ++ cs) = some "UTF-8" := rfl
  have hword : Text.isWordChar ' ' = false := Text.isWordChar_of_lt (by decide)
  rw [declaredLabel?, hstart, hd, List.append_assoc, dropWord_eq_some_iff.2 rfl, Option.bind_eq_bind,
    Option.bind_some]
  simp only [List.cons_append, List.nil_append]
  rw [if_pos (by decide)]
  iterate 14 rw [findLabel?_skip rfl (by decide)]
  have hfirst : "encoding=\"UTF-8\"?>".toList ++ cs = 'e' :: ("ncoding=\"UTF-8\"?>".toList ++ cs) := rfl
  rw [hfirst] at hlabel ⊢
  rw [findLabel?, hword, hlabel]
  rfl

theorem ofLabel?_utf8 : Encoding.ofLabel? "UTF-8" = some .utf8 := by
  rw [Encoding.ofLabel?, Encoding.labels, List.find?_cons_of_pos]
  · rfl
  · decide +kernel

/-- **The bytes of a written document** are decoded to its characters. -/
theorem decodeSource_render (m : Markup) :
    decodeSource (Text.Utf8.encode m.render) = .ok m.render.toList := by
  have htext : m.render.toList = declaration.toList ++ m.renderAt 0 := by
    rw [Markup.render, String.toList_append, String.toList_ofList]
  have hbytes : Text.Utf8.encode m.render = declaration.toList.flatMap String.utf8EncodeChar ++
      (m.renderAt 0).flatMap String.utf8EncodeChar := by
    rw [Text.Utf8.encode_eq_flatMap, htext, List.flatMap_append]
  have hlength : (declaration.toList.flatMap String.utf8EncodeChar).length ≤ declarationWindow := by
    decide
  have hmark : Text.byteOrderMark? (Text.Utf8.encode m.render) = none := by
    obtain ⟨content, hd, -, -⟩ := declaration_eq
    have hfirst : String.utf8EncodeChar '<' = [0x3C] := by decide
    rw [hbytes, hd, List.flatMap_cons, hfirst]
    rfl
  have hencoding : declaredEncoding (Text.Utf8.encode m.render) = .ok .utf8 := by
    rw [declaredEncoding, hbytes, List.take_append, List.take_of_length_le hlength,
      Text.Utf8.decodeLossy_append, declaredLabel?_declaration]
    simp only [ofLabel?_utf8]
  have hdecode : Encoding.utf8.decode? (Text.Utf8.encode m.render) = some m.render.toList :=
    Text.Utf8.decode_encode _
  rw [decodeSource, hmark]
  simp only [hencoding]
  refine bind_eq_ok.2 ⟨Encoding.utf8, rfl, bind_eq_ok.2 ⟨(Encoding.utf8, _), rfl, ?_⟩⟩
  rw [hdecode]
  rfl

/-! ## Trees -/

mutual

/-- The trees of a written element: they may differ in line numbers, and in the texts between their
children. -/
def Markup.IsTree : Markup → Tree → Prop
  | .leaf name attributes content, t =>
    ∃ line ps, t = .element line (plainElement name attributes) (textOf ps) ∧
      ps.flatMap (·.1) = content.toList
  | .group name attributes children, t =>
    ∃ line ts, t = .element line (plainElement name attributes) ts ∧ AreTrees children ts

/-- The trees of several written elements, with texts around them. -/
def AreTrees : List Markup → List Tree → Prop
  | [], ts => ∃ ps, ts = textOf ps
  | m :: ms, ts => ∃ ps t rest, ts = textOf ps ++ t :: rest ∧ m.IsTree t ∧ AreTrees ms rest

end

theorem Markup.IsTree.isElement {m : Markup} {t : Tree} (h : m.IsTree t) :
    ∃ line e children, t = .element line e children := by
  cases m with
  | leaf =>
    obtain ⟨line, ps, rfl, -⟩ := h
    exact ⟨line, _, _, rfl⟩
  | group =>
    obtain ⟨line, ts, rfl, -⟩ := h
    exact ⟨line, _, _, rfl⟩

/-- A text without references stands for itself. -/
theorem expand_eq_self {en : Entities} {cs : List Char} (h : '&' ∉ cs) : expand en cs = .ok cs := by
  rw [expand]
  generalize Text.byteLength cs = size
  generalize 0 = position
  induction cs generalizing position with
  | nil => rfl
  | cons c cs ih =>
    obtain ⟨hc, hcs⟩ := not_or.1 (mt List.mem_cons.2 h)
    rw [expandFrom, if_neg (Ne.symm hc), ih hcs]
    rfl

/-- A line break is a piece of character data. -/
theorem pieces_lineBreak (depth line : Nat) :
    Pieces [] [(.text (lineBreak depth), line)] [(lineBreak depth, line)] [] := by
  have hreference : '&' ∉ lineBreak depth := by
    rw [lineBreak, List.mem_cons, List.mem_replicate]
    simp
  exact .text (expand_eq_self hreference) .nil

/-- The first of several events, with its line. -/
theorem exists_line {es : List (Event × Nat)} {event : Event} {rest : List Event}
    (h : es.map (·.1) = event :: rest) :
    ∃ line es', es = (event, line) :: es' ∧ es'.map (·.1) = rest := by
  obtain ⟨⟨_, line⟩, es', rfl, rfl, hrest⟩ := List.map_eq_cons_iff.1 h
  exact ⟨line, es', rfl, hrest⟩

/-- The events of a text are those of pieces that make up the text. -/
theorem exists_pieces {content : String} {es : List (Event × Nat)}
    (hes : es.map (·.1) = textEvent (escape content)) :
    ∃ ps, Pieces [] es ps [] ∧ ps.flatMap (·.1) = content.toList := by
  rw [textEvent] at hes
  split at hes
  · next hnil =>
    obtain rfl := List.map_eq_nil_iff.1 hes
    exact ⟨[], .nil, (escape_eq_nil_iff.1 hnil).symm⟩
  · obtain ⟨line, rest, rfl, hrest⟩ := exists_line hes
    obtain rfl := List.map_eq_nil_iff.1 hrest
    exact ⟨[(content.toList, line)], .text (expand_escape content) .nil, by simp⟩

mutual

/-- **The events of a written element**, behind the line break before it, are those of one of its
trees. -/
theorem Markup.exists_tree {m : Markup} (h : m.Plain) {depth : Nat} {es : List (Event × Nat)}
    (hes : es.map (·.1) = m.eventsAt depth) :
    ∃ line rest t, es = (.text (lineBreak depth), line) :: rest ∧ TreeEvents [] [] rest t [] ∧
      m.IsTree t := by
  cases m with
  | leaf name attributes content =>
    obtain ⟨hname, hattributes⟩ := h
    rw [Markup.eventsAt] at hes
    obtain ⟨line, behind, rfl, hbehind⟩ := exists_line hes
    obtain ⟨line', inside, rfl, hinside⟩ := exists_line hbehind
    obtain ⟨middle, ending, rfl, hmiddle, hending⟩ := List.map_eq_append_iff.1 hinside
    obtain ⟨line'', none, rfl, hnone⟩ := exists_line hending
    obtain rfl := List.map_eq_nil_iff.1 hnone
    obtain ⟨ps, hps, hcontent⟩ := exists_pieces hmiddle
    exact ⟨line, _, _, rfl, .element (spells_plain hname hattributes) (.pieces hps),
      line', ps, rfl, hcontent⟩
  | group name attributes children =>
    obtain ⟨hname, hattributes, hchildren⟩ := h
    rw [Markup.eventsAt] at hes
    obtain ⟨line, behind, rfl, hbehind⟩ := exists_line hes
    obtain ⟨line', inside, rfl, hinside⟩ := exists_line hbehind
    obtain ⟨middle, ending, rfl, hmiddle, hending⟩ := List.map_eq_append_iff.1 hinside
    obtain ⟨lineBreak', last, rfl, hlast⟩ := exists_line hending
    obtain ⟨line'', none, rfl, hnone⟩ := exists_line hlast
    obtain rfl := List.map_eq_nil_iff.1 hnone
    obtain ⟨ts, hcontent, htrees⟩ := exists_trees hchildren hmiddle depth lineBreak'
    have helement : TreeEvents [] [] ((.start _, line') :: (middle ++ [(.text (lineBreak depth),
        lineBreak')] ++ [(.stop _, line'')])) (.element line' _ ts) [] :=
      .element (spells_plain hname hattributes) hcontent
    rw [List.append_assoc] at helement
    exact ⟨line, _, _, rfl, helement, line', ts, rfl, htrees⟩

/-- The events of written elements, with a line break behind them, are those of their trees. -/
theorem exists_trees {ms : List Markup} (h : AllPlain ms) {depth : Nat} {es : List (Event × Nat)}
    (hes : es.map (·.1) = eventsAll depth ms) (depth' line : Nat) :
    ∃ ts, Content [] [] (es ++ [(.text (lineBreak depth'), line)]) ts [] ∧ AreTrees ms ts := by
  cases ms with
  | nil =>
    obtain rfl := List.map_eq_nil_iff.1 hes
    exact ⟨_, .pieces (pieces_lineBreak depth' line), _, rfl⟩
  | cons m ms =>
    rw [eventsAll] at hes
    obtain ⟨first, rest, rfl, hfirst, hrest⟩ := List.map_eq_append_iff.1 hes
    obtain ⟨line', es', t, rfl, htree, hm⟩ := Markup.exists_tree h.1 hfirst
    obtain ⟨ts, hcontent, hms⟩ := exists_trees h.2 hrest depth' line
    have hchild := Content.child (pieces_lineBreak depth line') htree hcontent
    rw [List.singleton_append, ← List.append_assoc] at hchild
    exact ⟨_, hchild, _, t, ts, rfl, hm, hms⟩

end

/-- The events of a written document are those of one of the trees of its element. -/
theorem exists_traversal {m : Markup} (h : m.Plain) {es : List (Event × Nat)}
    (hes : es.map (·.1) = .other :: m.eventsAt 0) : ∃ t, Traversal es t ∧ m.IsTree t := by
  obtain ⟨line, es, rfl, hevents⟩ := exists_line hes
  obtain ⟨line', rest, t, rfl, htree, hm⟩ := m.exists_tree h hevents
  have hblank : (lineBreak 0).all Text.isBlank = true := by decide
  refine ⟨t, ⟨[(.other, line), (.text (lineBreak 0), line')], rest, [], [(lineBreak 0, line')], [],
    [], [], [], by simp, .other (pieces_lineBreak 0 line'), ?_, htree, .nil, fun p hp => by cases hp⟩,
    hm⟩
  rintro p hp
  rw [List.mem_singleton.1 hp]
  exact hblank

theorem LineCursor.map_number (k : LineCursor) (es : List (Event × Nat)) :
    (k.number es).1.map (·.1) = es.map (·.1) := by
  induction es generalizing k with
  | nil => rfl
  | cons e es ih => rw [number, List.map_cons, List.map_cons, ih]

/-- **A written document has one of the trees of its element.** -/
theorem parse_tree_render {m : Markup} (h : m.Plain) :
    ∃ t, Tree.parse (Text.Utf8.encode m.render) = .ok t ∧ m.IsTree t := by
  obtain ⟨hevents, hfault⟩ := events_render h
  have hnumbered : (numberedEvents m.render.toList).map (·.1) = .other :: m.eventsAt 0 := by
    rw [numberedEvents, LineCursor.map_number, hevents]
  obtain ⟨t, ht, hm⟩ := exists_traversal h hnumbered
  refine ⟨t, Tree.parse_eq_ok.2 ⟨_, decodeSource_render m, ?_⟩, hm⟩
  rw [parseTree_eq_buildTree hfault]
  exact ht.buildTree _

/-! ## Documents -/

namespace Document

/-- The children of a node that are elements. -/
def elements (d : Document) (id : NodeId) : List NodeId := (d.children id).filter d.isElement

mutual

/-- A node shows an element: it has the name and the attributes, and no others, and holds the text or
the elements. -/
def Shows (d : Document) (id : NodeId) : Markup → Prop
  | .leaf name attributes content =>
    d.element? id = some (plainElement name attributes) ∧ d.stringValue id = content
  | .group name attributes children =>
    d.element? id = some (plainElement name attributes) ∧ d.ShowAll (d.elements id) children

/-- Nodes show elements, one each. -/
def ShowAll (d : Document) (ids : List NodeId) : List Markup → Prop
  | [] => ids = []
  | m :: ms => ∃ id rest, ids = id :: rest ∧ d.Shows id m ∧ d.ShowAll rest ms

end

theorem showAll_iff {d : Document} {ids : List NodeId} {ms : List Markup} :
    d.ShowAll ids ms ↔ List.Forall₂ d.Shows ids ms := by
  induction ms generalizing ids with
  | nil => rw [ShowAll, List.forall₂_nil_right_iff]
  | cons m ms ih =>
    rw [ShowAll, List.forall₂_cons_right_iff]
    simp only [ih]
    exact ⟨fun ⟨i, rest, h, hi, hrest⟩ => ⟨i, rest, hi, hrest, h⟩,
      fun ⟨i, rest, hi, hrest, h⟩ => ⟨i, rest, h, hi, hrest⟩⟩

variable {d : Document} {p s : Nat}

theorem Holds.element? {line : Nat} {e : Element} {children : List Tree}
    (h : d.Holds p s (.element line e children)) : d.element? s = some e :=
  element?_eq_some_iff.2 ⟨_, h.1, rfl⟩

theorem Holds.isElement_text {line : Nat} {content : String} (h : d.Holds p s (.text line content)) :
    d.isElement s = false := by
  have hn : d.node? s = some ⟨.text content, some p, [], line, s⟩ := h
  simp [isElement, Document.element?, hn]

theorem HoldsAll.filter_textOf {ps : List Piece} (h : d.HoldsAll p s (textOf ps)) :
    (siblingIds s (textOf ps)).filter d.isElement = [] := by
  rw [textOf] at h ⊢
  split at h
  · simp [siblingIds, h.1.isElement_text]
  · rfl

/-- Texts before an element are passed over among the elements. -/
theorem HoldsAll.filter_append {ps : List Piece} {line : Nat} {e : Element}
    {children rest : List Tree}
    (h : d.HoldsAll p s (textOf ps ++ .element line e children :: rest)) :
    ∃ s', d.Holds p s' (.element line e children) ∧
      d.HoldsAll p (s' + (Tree.element line e children).size) rest ∧
      (siblingIds s (textOf ps ++ .element line e children :: rest)).filter d.isElement =
        s' :: (siblingIds (s' + (Tree.element line e children).size) rest).filter d.isElement := by
  have helement {s' : Nat} (hs : d.Holds p s' (.element line e children)) :
      d.isElement s' = true := by
    rw [isElement, hs.element?]
    rfl
  rw [textOf] at h ⊢
  split at h
  · next first _ =>
    obtain ⟨htext, hfirst, hrest⟩ := h
    refine ⟨s + 1, hfirst, hrest, ?_⟩
    simp only [List.singleton_append, siblingIds]
    rw [List.filter_cons_of_neg (by simp [htext.isElement_text]),
      List.filter_cons_of_pos (helement hfirst)]
    rfl
  · obtain ⟨hfirst, hrest⟩ := h
    refine ⟨s, hfirst, hrest, ?_⟩
    simp only [List.nil_append, siblingIds]
    rw [List.filter_cons_of_pos (helement hfirst)]

/-- The text of an element that only holds text. -/
theorem Holds.stringValue_textOf (hd : d.Sound) {line : Nat} {e : Element} {ps : List Piece}
    (h : d.Holds p s (.element line e (textOf ps))) :
    d.stringValue s = String.ofList (ps.flatMap (·.1)) := by
  rw [hd.stringValue_eq h.element?, h.children_eq]
  obtain ⟨-, hchildren⟩ := h
  rw [textOf] at hchildren ⊢
  split at hchildren
  · next first _ =>
    obtain ⟨hn, -⟩ := hchildren
    have htext : d.text? (s + 1) = some (String.ofList (ps.flatMap (·.1))) :=
      text?_eq_some_iff.2 ⟨_, hn, rfl⟩
    simp [siblingIds, stringValue, htext]
  · next hnone =>
    rw [flatMap_eq_nil_of_firstPiece? hnone]
    rfl

mutual

/-- **A node that holds a tree of an element shows the element.** -/
theorem Holds.shows (hd : d.Sound) {m : Markup} {t : Tree} {p s : Nat} (h : d.Holds p s t)
    (hm : m.IsTree t) : d.Shows s m := by
  cases m with
  | leaf name attributes content =>
    obtain ⟨line, ps, rfl, hcontent⟩ := hm
    refine ⟨h.element?, ?_⟩
    rw [h.stringValue_textOf hd, hcontent, String.ofList_toList]
  | group name attributes children =>
    obtain ⟨line, ts, rfl, hchildren⟩ := hm
    refine ⟨h.element?, ?_⟩
    rw [elements, h.children_eq]
    exact HoldsAll.showAll hd h.2 hchildren

theorem HoldsAll.showAll (hd : d.Sound) {ms : List Markup} {ts : List Tree} {p s : Nat}
    (h : d.HoldsAll p s ts) (hms : AreTrees ms ts) :
    d.ShowAll ((siblingIds s ts).filter d.isElement) ms := by
  cases ms with
  | nil =>
    obtain ⟨ps, rfl⟩ := hms
    exact h.filter_textOf
  | cons m ms =>
    obtain ⟨ps, t, rest, rfl, hm, hrest⟩ := hms
    obtain ⟨line, e, children, rfl⟩ := hm.isElement
    obtain ⟨s', hfirst, hbehind, hfilter⟩ := h.filter_append
    rw [hfilter]
    exact ⟨s', _, rfl, Holds.shows hd hfirst hm, HoldsAll.showAll hd hbehind hrest⟩

end

end Document

/-- **A written document is read back**: its document element shows what was written. -/
theorem parse_render {m : Markup} (h : m.Plain) :
    ∃ d, Document.parse (Text.Utf8.encode m.render) = .ok d ∧ d.Shows Document.documentElement m := by
  obtain ⟨t, ht, hm⟩ := parse_tree_render h
  have hd : Document.parse (Text.Utf8.encode m.render) = .ok (.ofTree t) :=
    Document.parse_eq_ok.2 ⟨t, ht, rfl⟩
  exact ⟨_, hd, (holds_ofTree t).shows (Document.parse_sound hd) hm⟩

end XmlAudit.Xml
