import XmlAudit.Proofs.Xml.Laying

/-!
# The lines of nodes

* `lineAt`: the line of a byte offset in a source.
* `numberedEvents_eq_lineAt`, `exists_lastLine`: the lines that events get.
* `Lined`: the elements of a document are on the lines on which their start tags end, and the lines
  of its nodes do not decrease.
* `parse_lines`: the lines of a document, and that on which a source is refused.
-/

namespace XmlAudit.Xml

open Text (byteLength)

variable {source front back cs : List Char} {offset goal goal' p q : Nat} {es : List (Event × Nat)}
  {k : LineCursor}

/-! ## Lines of offsets -/

/-- The characters that start before an offset. -/
def startingBefore : Nat → List Char → List Char
  | _, [] => []
  | offset, c :: cs => if 0 < offset then c :: startingBefore (offset - c.utf8Size) cs else []

/-- **The line of an offset**: one more than there are line feeds before it. -/
def lineAt (source : List Char) (offset : Nat) : Nat := 1 + (startingBefore offset source).count '\n'

theorem startingBefore_zero (cs : List Char) : startingBefore 0 cs = [] := by
  cases cs <;> rfl

theorem startingBefore_mono (h : p ≤ q) (cs : List Char) :
    startingBefore p cs <+: startingBefore q cs := by
  induction cs generalizing p q with
  | nil => exact List.prefix_rfl
  | cons c cs ih =>
    rw [startingBefore, startingBefore]
    split
    · rw [if_pos (by omega)]
      exact (List.prefix_cons_inj c).2 (ih (by omega))
    · exact List.nil_prefix

/-- The characters of a front are those that start before its end. -/
theorem startingBefore_front (front back : List Char) :
    startingBefore (byteLength front) (front ++ back) = front := by
  induction front with
  | nil => exact startingBefore_zero back
  | cons c front ih =>
    have hc := c.utf8Size_pos
    rw [List.cons_append, startingBefore, byteLength_cons, if_pos (by omega), Nat.add_sub_cancel_left, ih]

theorem startingBefore_isPrefix (offset : Nat) (cs : List Char) : startingBefore offset cs <+: cs := by
  induction cs generalizing offset with
  | nil => exact List.prefix_rfl
  | cons c cs ih =>
    rw [startingBefore]
    split
    · exact (List.prefix_cons_inj c).2 (ih _)
    · exact List.nil_prefix

theorem lineAt_mono (h : p ≤ q) (source : List Char) : lineAt source p ≤ lineAt source q :=
  Nat.add_le_add_left ((startingBefore_mono h source).sublist.count_le '\n') 1

/-- Behind a front of a source the line is one more than the front has line feeds. -/
theorem lineAt_front (h : front <+: source) :
    lineAt source (byteLength front) = 1 + front.count '\n' := by
  obtain ⟨back, rfl⟩ := h
  rw [lineAt, startingBefore_front]

theorem lineAt_range (source : List Char) (offset : Nat) :
    1 ≤ lineAt source offset ∧ lineAt source offset ≤ 1 + source.count '\n' :=
  ⟨Nat.le_add_right 1 _,
    Nat.add_le_add_left ((startingBefore_isPrefix offset source).sublist.count_le '\n') 1⟩

/-! ## The cursor -/

/-- A cursor that is moved counts the line feeds that it passes. -/
theorem line_advanceTo (goal : Nat) (cs : List Char) (offset line : Nat) :
    (advanceTo goal cs offset line).line =
      line + (startingBefore (goal - offset) cs).count '\n' := by
  induction cs generalizing offset line with
  | nil => rfl
  | cons c cs ih =>
    rw [advanceTo, startingBefore]
    by_cases hlt : offset < goal
    · rw [if_pos hlt, if_pos (Nat.sub_pos_of_lt hlt), ih, List.count_cons, Nat.sub_sub]
      by_cases hc : c = '\n'
      · simp [hc]
        omega
      · simp [hc]
    · rw [if_neg hlt, if_neg (by omega)]
      rfl

/-- Where a cursor has passed an offset, it does not matter whether it was to go there. -/
theorem advanceTo_max (h : p ≤ offset) (cs : List Char) (line : Nat) :
    advanceTo (max p goal) cs offset line = advanceTo goal cs offset line := by
  induction cs generalizing offset line with
  | nil => rfl
  | cons c cs ih =>
    have hsame : offset < max p goal ↔ offset < goal := by omega
    rw [advanceTo, advanceTo, ih (Nat.le_trans h (Nat.le_add_right _ _))]
    simp only [hsame]

/-- **A cursor never moves back**: it stands where the larger of two offsets takes it. -/
theorem advance_advance (k : LineCursor) (p q : Nat) :
    (k.advance p).advance q = k.advance (max p q) := by
  obtain ⟨cs, offset, line⟩ := k
  simp only [LineCursor.advance]
  induction cs generalizing offset line with
  | nil => rfl
  | cons c cs ih =>
    rw [advanceTo]
    by_cases hp : offset < p
    · rw [if_pos hp, ih, advanceTo, if_pos (lt_max_of_lt_left hp)]
    · rw [if_neg hp, advanceTo_max (by omega)]

/-- **Events whose ends are in order** get the lines of their ends. -/
theorem number_advance (hsorted : (p :: es.map (·.2)).Pairwise (· ≤ ·)) :
    (((LineCursor.start source).advance p).number es).1 = es.map (fun e => (e.1, lineAt source e.2)) ∧
      ∃ q, (((LineCursor.start source).advance p).number es).2 = (LineCursor.start source).advance q := by
  induction es generalizing p with
  | nil => exact ⟨rfl, p, rfl⟩
  | cons e es ih =>
    obtain ⟨event, stop⟩ := e
    rw [List.map_cons, List.pairwise_cons_cons_iff_of_trans] at hsorted
    have hnext : ((LineCursor.start source).advance p).advance stop =
        (LineCursor.start source).advance stop := by
      rw [advance_advance, max_eq_right hsorted.1]
    have hline : ((LineCursor.start source).advance stop).line = lineAt source stop :=
      line_advanceTo stop source 0 1
    obtain ⟨hlater, q, hq⟩ := ih hsorted.2
    rw [LineCursor.number, hnext, List.map_cons]
    exact ⟨by rw [hline, hlater], q, hq⟩

theorem start_advance_zero (source : List Char) :
    (LineCursor.start source).advance 0 = LineCursor.start source := by
  cases source <;> rfl

/-- The ends of the events of a source are in order. -/
theorem sorted_events (source : List Char) : (0 :: (events source).1.map (·.2)).Pairwise (· ≤ ·) := by
  obtain ⟨ss, hcuts⟩ := exists_cuts_events source
  exact hcuts.ends.sorted

/-- **The events of a source have the lines of their ends.** -/
theorem numberedEvents_eq_lineAt (source : List Char) :
    numberedEvents source = (events source).1.map fun e => (e.1, lineAt source e.2) := by
  rw [numberedEvents, ← start_advance_zero]
  exact (number_advance (sorted_events source)).1

theorem exists_lastLine (source : List Char) : ∃ offset, lastLine source = lineAt source offset := by
  obtain ⟨-, q, hq⟩ := @number_advance source 0 _ (sorted_events source)
  rw [start_advance_zero] at hq
  rw [lastLine, hq, advance_advance]
  exact ⟨_, line_advanceTo _ source 0 1⟩

/-- The lines of the events of a source do not decrease. -/
theorem sorted_numberedEvents (source : List Char) :
    ((numberedEvents source).map (·.2)).Pairwise (· ≤ ·) := by
  have hsorted := (List.pairwise_cons.1 (sorted_events source)).2
  rw [numberedEvents_eq_lineAt, List.map_map]
  rw [List.pairwise_map] at hsorted ⊢
  exact hsorted.imp fun h => lineAt_mono h source

/-! ## The lines of nodes -/

theorem filterMap_range {α β : Type} (l : List α) (f : α → Option β) :
    (List.range l.length).filterMap (fun i => l[i]?.bind f) = l.filterMap f := by
  induction l using List.reverseRecOn with
  | nil => rfl
  | append_singleton l a ih =>
    have hfront : (List.range l.length).filterMap (fun i => (l ++ [a])[i]?.bind f) =
        (List.range l.length).filterMap fun i => l[i]?.bind f := by
      refine List.filterMap_congr fun i hi => ?_
      rw [List.getElem?_append_left (List.mem_range.1 hi)]
    rw [List.length_append, List.length_singleton, List.range_succ, List.filterMap_append, hfront, ih,
      List.filterMap_append, List.filterMap_cons, List.filterMap_cons, List.getElem?_concat_length]
    rfl

namespace Document

/-- The elements of a document in document order, with their lines. -/
def elementLines (d : Document) : List (Element × Nat) :=
  (List.range d.size).filterMap fun id => (d.element? id).map (·, d.line id)

theorem elementLines_ofTree (t : Tree) : (ofTree t).elementLines = elementsOf t.heads := by
  have hnode : ∀ (d : Document) (id : NodeId), (d.element? id).map (·, d.line id) =
      d.nodes.toList[id]?.bind fun n => Head.element? (n.kind, n.line) := by
    intro d id
    rw [element?, line, node?, Array.getElem?_toList]
    cases d.nodes[id]? with
    | none => rfl
    | some n =>
      obtain ⟨kind, parent, children, line, last⟩ := n
      cases kind <;> rfl
  have hsize : (ofTree t).size = (ofTree t).nodes.toList.length := rfl
  rw [elementLines, hsize]
  simp only [hnode]
  rw [filterMap_range, elementsOf, ← t.map_nodes root documentElement, List.filterMap_map]
  rfl

/-- The lines of the nodes behind the document node. -/
theorem line_ofTree (t : Tree) (k : Nat) :
    (ofTree t).line (k + 1) = ((t.heads.map (·.2))[k]?).getD 0 := by
  rw [← t.map_nodes root documentElement, List.map_map, line, node?, ofTree, List.getElem?_toArray,
    List.getElem?_cons_succ, List.getElem?_map]
  rfl

theorem length_heads (t : Tree) : t.heads.length = t.size := by
  rw [← t.map_nodes root documentElement, List.length_map, t.length_nodes]

end Document

/-- **A source is read as stretches** behind a byte order mark: they spell the events of the reader,
and at most a bracket at the end of the source is left over. -/
structure ReadAs (source : List Char) (ss : List Stretch) : Prop where
  left : ∃ rest, behindMark source = charsOf ss ++ rest ∧ (rest = [] ∨ rest = ['<'])
  events : ss.map (·.event) = (events source).1.map (·.1)
  spelled : SpelledOut ss

/-- **The nodes of a document stand on the lines of its source.** Its elements are those of the start
tags, in the same order; each is on the line on which its start tag ends, one more than there are line
feeds up to there. The reader counts offsets from behind a byte order mark, but lines are counted from
before it, so in a source with a mark they are those of a place three bytes before the end of the tag.
The lines of nodes do not decrease, and are lines of the source. -/
structure Lined (source : List Char) (d : Document) : Prop where
  elements : ∃ ss, ReadAs source ss ∧
    List.Forall₂ (fun t e => (source.head? ≠ some '\ufeff' → e.2 = 1 + t.2.count '\n') ∧
      e.2 = lineAt source (byteLength t.2) ∧ e.1.name = QName.ofChars t.1.name)
      (tagged (upTo [] ss)) d.elementLines
  ordered : ∀ i j, 1 ≤ i → i ≤ j → j < d.size → d.line i ≤ d.line j
  bounded : ∀ i, 1 ≤ i → i < d.size → 1 ≤ d.line i ∧ d.line i ≤ 1 + source.count '\n'

theorem behindMark_eq_self (h : source.head? ≠ some '\ufeff') : behindMark source = source := by
  unfold behindMark
  split
  · exact absurd rfl h
  · rfl

/-- The tags of a source with their lines. -/
theorem tagged_numberedEvents {ss : List Stretch} (h : Ends 0 ss (events source).1) :
    tagged (numberedEvents source) =
      (tagged (upTo [] ss)).map fun t => (t.1, lineAt source (byteLength t.2)) := by
  have hmap : ∀ es : List (Event × Nat), tagged (es.map fun e => (e.1, lineAt source e.2)) =
      (tagged es).map fun t => (t.1, lineAt source t.2) := by
    intro es
    rw [tagged, tagged, List.filterMap_map, List.map_filterMap]
    refine List.filterMap_congr fun e _ => ?_
    cases h : e.1.tag? <;> simp [h]
  rw [numberedEvents_eq_lineAt, hmap, (@Ends.tagged_eq _ _ [] _ h rfl), List.map_map]
  rfl

/-- Without a byte order mark, lines are those of the ends of tags. -/
theorem lineAt_upTo {ss : List Stretch} (hread : ReadAs source ss)
    (hmark : source.head? ≠ some '\ufeff') {t : Tag × List Char} (ht : t ∈ tagged (upTo [] ss)) :
    lineAt source (byteLength t.2) = 1 + t.2.count '\n' := by
  obtain ⟨rest, hsplit, -⟩ := hread.left
  rw [behindMark_eq_self hmark] at hsplit
  obtain ⟨e, he, htag⟩ := List.mem_filterMap.1 ht
  obtain ⟨tag, -, rfl⟩ := Option.map_eq_some_iff.1 htag
  refine lineAt_front ((prefix_of_mem_upTo he).trans ?_)
  rw [hsplit]
  exact List.prefix_append _ _

theorem parseTree_lined {t : Tree} (h : parseTree source = .ok t) : Lined source (.ofTree t) := by
  obtain ⟨hfault, hbuild⟩ := parseTree_eq_ok.1 h
  obtain ⟨helements, hknown, hsorted⟩ := buildTree_lays (sorted_numberedEvents source) hbuild
  obtain ⟨ss, hspelled, hends, rest, hsplit, hrest⟩ := exists_cuts_events source
  have hread : ReadAs source ss := ⟨⟨rest, hsplit, hrest hfault⟩, hends.map_fst.symm, hspelled⟩
  have hsize : (Document.ofTree t).size = (t.heads.map (·.2)).length + 1 := by
    rw [Document.size_ofTree, List.length_map, Document.length_heads]
  -- the lines of the nodes are those of the heads of the tree, in order
  have hline : ∀ k (hk : k < (t.heads.map (·.2)).length),
      (Document.ofTree t).line (k + 1) = (t.heads.map (·.2))[k] := by
    intro k hk
    rw [Document.line_ofTree, List.getElem?_eq_getElem hk]
    rfl
  refine ⟨⟨ss, hread, ?_⟩, ?_, ?_⟩
  · rw [tagged_numberedEvents hends, List.forall₂_map_left_iff] at helements
    rw [Document.elementLines_ofTree]
    have hexact := (List.forall₂_and_left _ _).2
      ⟨fun t ht hmark => lineAt_upTo hread hmark ht, helements⟩
    refine hexact.imp fun t e h => ?_
    obtain ⟨hplain, hsame, entities, outer, hspells⟩ := h
    exact ⟨fun hmark => hsame.trans (hplain hmark), hsame, hspells.name⟩
  · intro i j hi hij hj
    obtain ⟨i, rfl⟩ := Nat.exists_eq_add_of_le' hi
    obtain ⟨j, rfl⟩ := Nat.exists_eq_add_of_le' (Nat.le_trans hi hij)
    have hj' : j < (t.heads.map (·.2)).length := by omega
    have hi' : i < (t.heads.map (·.2)).length := by omega
    rw [hline i hi', hline j hj']
    rcases Nat.eq_or_lt_of_le (Nat.le_of_succ_le_succ hij) with rfl | hlt
    · exact Nat.le_refl _
    · exact List.pairwise_iff_getElem.1 hsorted i j hi' hj' hlt
  · intro i hi hlt
    obtain ⟨i, rfl⟩ := Nat.exists_eq_add_of_le' hi
    have hi' : i < (t.heads.map (·.2)).length := by omega
    rw [hline i hi']
    have hmem := hknown _ (List.getElem_mem hi')
    rw [numberedEvents_eq_lineAt, List.map_map] at hmem
    obtain ⟨e, -, he⟩ := List.mem_map.1 hmem
    rw [← he]
    exact lineAt_range source e.2

/-- **Every element of a document is spelled by a start tag.** -/
theorem Document.exists_tag {bytes : List UInt8} {d : Document} {id : NodeId} {e : Element}
    (hd : Document.parse bytes = .ok d) (he : d.element? id = some e) :
    ∃ tag entities outer, Tag.Spells entities outer tag e := by
  obtain ⟨t, ht, rfl⟩ := Document.parse_eq_ok.1 hd
  obtain ⟨source, -, hparse⟩ := Tree.parse_eq_ok.1 ht
  obtain ⟨helements, -⟩ :=
    buildTree_lays (sorted_numberedEvents source) (parseTree_eq_ok.1 hparse).2
  have hmem : (e, (Document.ofTree t).line id) ∈ elementsOf t.heads := by
    rw [← Document.elementLines_ofTree]
    refine List.mem_filterMap.2 ⟨id, List.mem_range.2 (Document.lt_size_of_element? he), ?_⟩
    rw [he, Option.map_some]
  obtain ⟨tag, -, -, entities, outer, hspells⟩ := exists_right_of_forall₂ helements.flip hmem
  exact ⟨tag.1, entities, outer, hspells⟩

/-- The line of a fault of the builder is that of an event. -/
theorem Builder.line_of_run_error {b : Builder} {m : Malformed} (h : b.run es = .error m) :
    m.line ∈ es.map (·.2) := by
  induction es generalizing b with
  | nil => cases h
  | cons e es ih =>
    obtain ⟨event, line⟩ := e
    rw [run] at h
    split at h
    · exact List.mem_cons_of_mem _ (ih h)
    · cases h
      exact List.mem_cons_self

/-- **A source is refused on one of its lines.** -/
theorem exists_lineAt_of_error {m : Malformed} (h : parseTree source = .error m) :
    ∃ offset, m.line = lineAt source offset := by
  rw [parseTree, bind_eq_error] at h
  rcases h with hrun | ⟨b, -, hend⟩
  · have hmem : m.line ∈ (numberedEvents source).map (·.2) := Builder.line_of_run_error hrun
    rw [numberedEvents_eq_lineAt, List.map_map] at hmem
    obtain ⟨e, -, he⟩ := List.mem_map.1 hmem
    exact ⟨e.2, he.symm⟩
  · obtain ⟨last, hlast⟩ := exists_lastLine source
    refine ⟨last, ?_⟩
    rw [← hlast]
    split at hend
    · cases hend
      rfl
    · cases hfinish : b.finish with
      | error fault =>
        rw [hfinish] at hend
        cases hend
        rfl
      | ok t =>
        rw [hfinish] at hend
        cases hend

/-- **The lines of a document.** Whatever is read is lined up with its source; what cannot be read is
refused on a line of its source, or on the first one if it cannot be decoded. -/
theorem parse_lines (bytes : List UInt8) :
    (∀ d, Document.parse bytes = .ok d → ∃ source, decodeSource bytes = .ok source ∧ Lined source d) ∧
    ∀ m, Document.parse bytes = .error m → 1 ≤ m.line ∧
      (∀ source, decodeSource bytes = .ok source → m.line ≤ 1 + source.count '\n') ∧
      ∀ fault, decodeSource bytes = .error fault → m.line = 1 := by
  refine ⟨fun d hd => ?_, fun m hm => ?_⟩
  · obtain ⟨t, ht, rfl⟩ := Document.parse_eq_ok.1 hd
    obtain ⟨source, hsource, hparse⟩ := Tree.parse_eq_ok.1 ht
    exact ⟨source, hsource, parseTree_lined hparse⟩
  · have htree : Tree.parse bytes = .error m := by
      rw [Document.parse, bind_eq_error] at hm
      rcases hm with hm | ⟨t, -, hm⟩
      · exact hm
      · cases hm
    rw [Tree.parse, bind_eq_error] at htree
    -- a source that cannot be decoded is refused on its first line
    cases hsource : decodeSource bytes with
    | error fault =>
      rw [hsource] at htree
      rcases htree with hm | ⟨source, hm, -⟩
      · cases hm
        exact ⟨Nat.le_refl 1, fun source h => absurd h (by simp), fun _ _ => rfl⟩
      · cases hm
    | ok source =>
      rw [hsource] at htree
      rcases htree with hm | ⟨source', hm, hparse⟩
      · cases hm
      · cases hm
        obtain ⟨offset, hoffset⟩ := exists_lineAt_of_error hparse
        obtain ⟨hfirst, hlast⟩ := lineAt_range source offset
        rw [hoffset]
        refine ⟨hfirst, fun source' h => ?_, fun fault h => absurd h (by simp)⟩
        cases h
        exact hlast

/-- A start tag of two lines is on the second one, and text on the line on which it ends. -/
theorem parse_lines_broken_tag :
    (∃ d source, Document.parse "<a>\n<b\n/>t\n</a>".toUTF8.toList = .ok d ∧
      decodeSource "<a>\n<b\n/>t\n</a>".toUTF8.toList = .ok source ∧ Lined source d ∧
      (List.range d.size).map d.line = [0, 1, 2, 3, 4]) ∧
    ∃ m, Document.parse "<a>\n</b>".toUTF8.toList = .error m ∧ m.line = 2 ∧ 1 ≤ m.line := by
  have hread : (Document.parse "<a>\n<b\n/>t\n</a>".toUTF8.toList).toOption.any (fun d =>
      (List.range d.size).map d.line = [0, 1, 2, 3, 4]) = true := by decide +kernel
  have hrefused : (match Document.parse "<a>\n</b>".toUTF8.toList with
      | .error m => m.line
      | .ok _ => 0) = 2 := by decide +kernel
  constructor
  · obtain ⟨d, hd, hlines⟩ := (Option.any_eq_true _ _).1 hread
    replace hd := toOption_eq_some.1 hd
    obtain ⟨source, hsource, hlined⟩ := (parse_lines _).1 d hd
    exact ⟨d, source, hd, hsource, hlined, of_decide_eq_true hlines⟩
  · cases hm : Document.parse "<a>\n</b>".toUTF8.toList with
    | error m =>
      rw [hm] at hrefused
      exact ⟨m, rfl, hrefused, ((parse_lines _).2 m hm).1⟩
    | ok d =>
      rw [hm] at hrefused
      cases hrefused

end XmlAudit.Xml
