import XmlAudit.Proofs.Xml.Escaping

/-!
# The events of what is written

* `Reader.Passes`: a reader reads events and goes on as another one.
* `Markup.eventsAt`: the events of an element that is written at a depth.
* `Markup.passes`: a reader of the written element passes over these events.
* `events_render`: the events of a written document.
-/

namespace XmlAudit.Xml

open Text (byteLength isXmlBlank)

variable {event : Event} {es es' : List Event} {r s : Reader}
  {opened opened' opened'' : List (List Char)} {offset stop : Nat}
  {cs cs' cs'' text : List Char} {name : String} {attributes : List (String × String)}

/-! ## Readers -/

namespace Reader

theorem events_of_found (h : r.next = .found event stop s) :
    r.events = ((event, stop) :: s.events.1, s.events.2) := by
  rw [events]
  split
  · next h' =>
    rw [h] at h'
    cases h'
    rfl
  · next h' => rw [h] at h'; cases h'
  · next h' => rw [h] at h'; cases h'

theorem events_of_finished (h : r.next = .finished stop) : r.events = ([], ⟨stop, none⟩) := by
  rw [events]
  split
  · next h' => rw [h] at h'; cases h'
  · next h' =>
    rw [h] at h'
    cases h'
    rfl
  · next h' => rw [h] at h'; cases h'

/-- A reader that has just passed a `<` is like one before it. -/
theorem events_inMarkup :
    (Reader.mk cs (offset + 1) true opened).events = (Reader.mk ('<' :: cs) offset false opened).events := by
  have h : (Reader.mk cs (offset + 1) true opened).next =
      (Reader.mk ('<' :: cs) offset false opened).next := rfl
  cases hnext : (Reader.mk ('<' :: cs) offset false opened).next with
  | found event stop s => rw [events_of_found hnext, events_of_found (h.trans hnext)]
  | finished stop => rw [events_of_finished hnext, events_of_finished (h.trans hnext)]
  | failed fault position =>
    rw [events, events]
    split <;> split <;> simp_all

end Reader

/-- With these elements open, characters start with events, wherever these end; behind them come
others, with other elements open. -/
def Scans (opened : List (List Char)) (cs : List Char) (es : List Event) (opened' : List (List Char))
    (cs' : List Char) : Prop :=
  ∀ offset, ∃ offset' found, found.map (·.1) = es ∧
    (Reader.mk cs offset false opened).events =
      (found ++ (Reader.mk cs' offset' false opened').events.1,
        (Reader.mk cs' offset' false opened').events.2)

theorem Scans.refl (opened : List (List Char)) (cs : List Char) : Scans opened cs [] opened cs :=
  fun offset => ⟨offset, [], rfl, rfl⟩

theorem Scans.trans (h : Scans opened cs es opened' cs') (h' : Scans opened' cs' es' opened'' cs'') :
    Scans opened cs (es ++ es') opened'' cs'' := by
  intro offset
  obtain ⟨offset', found, rfl, hr⟩ := h offset
  obtain ⟨offset'', found', rfl, hs⟩ := h' offset'
  exact ⟨offset'', found ++ found', List.map_append, by rw [hr, hs, List.append_assoc]⟩

theorem scans_of_found (h : ∀ offset, ∃ stop offset', (Reader.mk cs offset false opened).next =
    .found event stop ⟨cs', offset', false, opened'⟩) : Scans opened cs [event] opened' cs' := by
  intro offset
  obtain ⟨stop, offset', hnext⟩ := h offset
  exact ⟨offset', [(event, stop)], rfl, Reader.events_of_found hnext⟩

/-! ## Start tags, end tags and texts -/

theorem quoteAfter_none {c : Char} (h : c ≠ '"') (h' : c ≠ '\'') : quoteAfter none c = none :=
  if_neg (not_or.2 ⟨h, h'⟩)

/-- Characters other than `>` are passed on the way to the end of a tag. -/
theorem splitTag_append {quote : Option Char} {front back : List Char} (h : '>' ∉ front) :
    splitTag quote (front ++ back) =
      (splitTag (front.foldl quoteAfter quote) back).map fun r => (front ++ r.1, r.2) := by
  induction front generalizing quote with
  | nil => simp
  | cons c front ih =>
    obtain ⟨hc, hfront⟩ := not_or.1 (mt List.mem_cons.2 h)
    rw [List.cons_append, splitTag, if_neg (fun hclose => hc hclose.1.symm), ih hfront,
      Option.map_map]
    rfl

theorem foldl_quoteAfter {front : List Char} (h : '"' ∉ front) (h' : '\'' ∉ front) :
    front.foldl quoteAfter none = none := by
  induction front with
  | nil => rfl
  | cons c front ih =>
    obtain ⟨hc, hfront⟩ := not_or.1 (mt List.mem_cons.2 h)
    obtain ⟨hc', hfront'⟩ := not_or.1 (mt List.mem_cons.2 h')
    rw [List.foldl_cons, quoteAfter_none (Ne.symm hc) (Ne.symm hc'), ih hfront hfront']

theorem foldl_quoteAfter_quoted {front : List Char} (h : '"' ∉ front) :
    front.foldl quoteAfter (some '"') = some '"' := by
  induction front with
  | nil => rfl
  | cons c front ih =>
    obtain ⟨hc, hfront⟩ := not_or.1 (mt List.mem_cons.2 h)
    rw [List.foldl_cons, quoteAfter, if_neg (Ne.symm hc), ih hfront]

theorem IsWord.foldl_quoteAfter (h : IsWord name) : name.toList.foldl quoteAfter none = none :=
  Xml.foldl_quoteAfter (h.notMem (by decide)) (h.notMem (by decide))

/-- The quotes of written attributes are closed. -/
theorem foldl_attributeText (hword : ∀ a ∈ attributes, IsWord a.1) :
    (attributeText attributes).foldl quoteAfter none = none := by
  induction attributes with
  | nil => rfl
  | cons a attributes ih =>
    obtain ⟨ha, hrest⟩ := List.forall_mem_cons.1 hword
    have hfirst : (' ' :: a.1.toList ++ '=' :: '"' :: escape a.2 ++ ['"']).foldl quoteAfter none =
        none := by
      simp only [List.cons_append, List.foldl_cons, List.foldl_append, List.foldl_nil,
        quoteAfter_none (show ' ' ≠ '"' by decide) (show ' ' ≠ '\'' by decide), ha.foldl_quoteAfter,
        quoteAfter_none (show '=' ≠ '"' by decide) (show '=' ≠ '\'' by decide)]
      rw [show quoteAfter none '"' = some '"' from rfl,
        foldl_quoteAfter_quoted (notMem_escape a.2).2.2]
      rfl
    rw [attributeText, List.flatMap_cons, List.foldl_append, hfirst]
    exact ih hrest

theorem notMem_attributeText (hword : ∀ a ∈ attributes, IsWord a.1) :
    '>' ∉ attributeText attributes := by
  intro h
  obtain ⟨a, ha, h⟩ := List.mem_flatMap.1 h
  have hkey := (hword a ha).notMem (show '>'.isAlpha = false by decide)
  have hvalue := (notMem_escape a.2).2.1
  simp [hkey, hvalue] at h

theorem head?_attributeText : ∀ c ∈ (attributeText attributes).head?, c = ' ' := by
  cases attributes with
  | nil => simp [attributeText]
  | cons a attributes => simp [attributeText]

theorem getLast?_attributeText : ∀ c ∈ (attributeText attributes).getLast?, c = '"' := by
  rcases List.eq_nil_or_concat attributes with rfl | ⟨front, a, rfl⟩
  · simp [attributeText]
  · have htext : attributeText (front.concat a) =
        attributeText front ++ (' ' :: a.1.toList ++ '=' :: '"' :: escape a.2) ++ ['"'] := by
      simp [attributeText]
    rw [htext, List.getLast?_concat]
    rintro c ⟨⟩
    rfl

/-- What stands between the brackets of a written start tag is a start tag. -/
theorem tagEvent_written (hname : IsWord name) :
    tagEvent (name.toList ++ attributeText attributes) =
      .start ⟨name.toList, attributeText attributes⟩ := by
  have hblank : ∀ c ∈ name.toList, (!isXmlBlank c) = true := fun c hc => by
    rw [hname.not_blank hc]
    rfl
  have hsplit : (name.toList ++ attributeText attributes).takeWhile (!isXmlBlank ·) = name.toList ∧
      (name.toList ++ attributeText attributes).dropWhile (!isXmlBlank ·) =
        attributeText attributes := by
    cases htext : attributeText attributes with
    | nil =>
      rw [List.append_nil, List.takeWhile_eq_self_iff, List.dropWhile_eq_nil_iff]
      exact ⟨hblank, hblank⟩
    | cons c rest =>
      obtain rfl : c = ' ' := head?_attributeText c (by rw [htext]; rfl)
      exact ⟨takeWhile_append_cons hblank rfl, dropWhile_append_cons hblank rfl⟩
  -- a written tag ends in a name or a quote, and not in the slash of an empty element
  have hlast : (name.toList ++ attributeText attributes).getLast? ≠ some '/' := by
    intro h
    rw [List.getLast?_append] at h
    cases htext : (attributeText attributes).getLast? with
    | none =>
      rw [htext, Option.none_or] at h
      exact hname.notMem (by decide) (List.mem_of_getLast? h)
    | some c =>
      obtain rfl := getLast?_attributeText c htext
      rw [htext, Option.some_or] at h
      cases h
  rw [tagEvent, hsplit.1, hsplit.2, if_neg hlast]

/-- Markup that starts with a letter is read as a tag. -/
theorem nextMarkup_word (hname : IsWord name) :
    nextMarkup (name.toList ++ cs) offset opened = nextTag (name.toList ++ cs) offset opened := by
  obtain ⟨k, ks, hk⟩ := List.exists_cons_of_ne_nil hname.1
  have hne {c : Char} (hc : c.isAlpha = false) : k ≠ c := fun heq =>
    hname.notMem hc (by rw [hk, heq]; exact List.mem_cons_self)
  rw [hk, List.cons_append]
  unfold nextMarkup
  split
  · next h => cases h
  · next h => exact absurd (List.cons.inj h).1 (hne (by decide))
  · next h => exact absurd (List.cons.inj h).1 (hne (by decide))
  · next h => exact absurd (List.cons.inj h).1 (hne (by decide))
  · rfl

/-- **A written start tag** is read as the event of its name and attributes. -/
theorem scans_startTag (hname : IsWord name) (hword : ∀ a ∈ attributes, IsWord a.1) :
    Scans opened (startTag name attributes ++ cs)
      [.start ⟨name.toList, attributeText attributes⟩] (name.toList :: opened) cs := by
  have htext : startTag name attributes ++ cs =
      '<' :: (name.toList ++ (attributeText attributes ++ '>' :: cs)) := by
    simp [startTag, attributeText]
  have hclose : '>' ∉ name.toList ++ attributeText attributes := by
    rw [List.mem_append]
    exact not_or.2 ⟨hname.notMem (by decide), notMem_attributeText hword⟩
  have hsplit : splitTag none (name.toList ++ (attributeText attributes ++ '>' :: cs)) =
      some (name.toList ++ attributeText attributes, cs) := by
    rw [← List.append_assoc, splitTag_append hclose, List.foldl_append, hname.foldl_quoteAfter,
      foldl_attributeText hword, splitTag, if_pos ⟨rfl, rfl⟩, Option.map_some, List.append_nil]
  refine scans_of_found fun offset => ?_
  have hnext : (Reader.mk (startTag name attributes ++ cs) offset false opened).next =
      nextTag (name.toList ++ (attributeText attributes ++ '>' :: cs)) (offset + 1) opened := by
    rw [htext]
    exact nextMarkup_word hname
  rw [nextTag, hsplit] at hnext
  simp only [tagEvent_written hname] at hnext
  exact ⟨_, _, hnext⟩

/-- A written end tag of the innermost open element is read as such. -/
theorem scans_endTag (hname : IsWord name) :
    Scans (name.toList :: opened) (endTag name ++ cs) [.stop name.toList] opened cs := by
  have htext : endTag name ++ cs = '<' :: '/' :: (name.toList ++ '>' :: cs) := by simp [endTag]
  have hopen : ∀ c ∈ name.toList, decide (c ≠ '>') = true := fun c hc =>
    decide_eq_true fun heq => hname.notMem (by decide) (heq ▸ hc)
  have hsplit : splitAngle (name.toList ++ '>' :: cs) = (name.toList, cs) := by
    rw [splitAngle, takeWhile_append_cons hopen (by simp), dropWhile_append_cons hopen (by simp),
      List.drop_one, List.tail_cons]
  -- no blanks stand behind the name
  have hend : endName name.toList = name.toList := by
    have hkeep : name.toList.reverse.dropWhile isXmlBlank = name.toList.reverse := by
      cases hr : name.toList.reverse with
      | nil => rfl
      | cons c rest =>
        have hc : c ∈ name.toList := List.mem_reverse.1 (hr ▸ List.mem_cons_self)
        rw [List.dropWhile_cons_of_neg]
        simp [hname.not_blank hc]
    rw [endName, hkeep]
    split
    · rfl
    · exact List.reverse_reverse _
  refine scans_of_found fun offset => ?_
  have hnext : (Reader.mk (endTag name ++ cs) offset false (name.toList :: opened)).next =
      nextEnd (name.toList ++ '>' :: cs) (offset + 1) (name.toList :: opened) := by
    rw [htext]
    rfl
  rw [nextEnd] at hnext
  simp only [hsplit, hend, if_pos] at hnext
  exact ⟨_, _, hnext⟩

/-- The event of a text, if there is any. -/
def textEvent (text : List Char) : List Event := if text = [] then [] else [.text text]

/-- Text before markup is read as one event. -/
theorem scans_text (h : '<' ∉ text) (hcs : cs.head? = some '<') :
    Scans opened (text ++ cs) (textEvent text) opened cs := by
  obtain ⟨cs, rfl⟩ : ∃ rest, cs = '<' :: rest := List.head?_eq_some_iff.1 hcs
  cases text with
  | nil => exact .refl opened _
  | cons c text =>
    intro offset
    obtain ⟨hc, -⟩ := not_or.1 (mt List.mem_cons.2 h)
    have hopen : ∀ d ∈ c :: text, decide (d ≠ '<') = true := fun d hd =>
      decide_eq_true fun heq => h (heq ▸ hd)
    have hnext : (Reader.mk (c :: text ++ '<' :: cs) offset false opened).next =
        .found (.text (c :: text)) (offset + byteLength (c :: text))
          ⟨cs, offset + byteLength (c :: text) + 1, true, opened⟩ := by
      rw [Reader.next, if_neg Bool.false_ne_true]
      split
      · next heq => cases heq
      · next heq => exact absurd (List.cons.inj heq).1.symm hc
      · simp only [takeWhile_append_cons hopen (show decide ('<' ≠ '<') = false by decide),
          dropWhile_append_cons hopen (show decide ('<' ≠ '<') = false by decide)]
    rw [Reader.events_of_found hnext, Reader.events_inMarkup]
    exact ⟨_, [_], rfl, rfl⟩

/-! ## Elements -/

mutual

/-- An element that can be read back: names are words, and so are those of attributes, which differ. -/
def Markup.Plain : Markup → Prop
  | .leaf name attributes _ => IsWord name ∧ PlainAttributes attributes
  | .group name attributes children =>
    IsWord name ∧ PlainAttributes attributes ∧ AllPlain children

/-- All of several elements can be read back. -/
def AllPlain : List Markup → Prop
  | [] => True
  | m :: ms => m.Plain ∧ AllPlain ms

end

mutual

/-- The events of an element that is written at a depth. -/
def Markup.eventsAt (depth : Nat) : Markup → List Event
  | .leaf name attributes content =>
    .text (lineBreak depth) :: .start ⟨name.toList, attributeText attributes⟩ ::
      (textEvent (escape content) ++ [.stop name.toList])
  | .group name attributes children =>
    .text (lineBreak depth) :: .start ⟨name.toList, attributeText attributes⟩ ::
      (eventsAll (depth + 1) children ++ [.text (lineBreak depth), .stop name.toList])

/-- The events of elements one after the other. -/
def eventsAll (depth : Nat) : List Markup → List Event
  | [] => []
  | m :: ms => m.eventsAt depth ++ eventsAll depth ms

end

/-- A line break before markup is read as text. -/
theorem scans_lineBreak (depth : Nat) (hcs : cs.head? = some '<') :
    Scans opened (lineBreak depth ++ cs) [.text (lineBreak depth)] opened cs := by
  have hopen : '<' ∉ lineBreak depth := by
    rw [lineBreak, List.mem_cons, List.mem_replicate]
    simp
  have htext : textEvent (lineBreak depth) = [.text (lineBreak depth)] :=
    if_neg (List.cons_ne_nil _ _)
  exact htext ▸ scans_text hopen hcs

mutual

/-- **A written element** is read as its events. -/
theorem Markup.scans {m : Markup} (h : m.Plain) (depth : Nat) (opened : List (List Char))
    (cs : List Char) : Scans opened (m.renderAt depth ++ cs) (m.eventsAt depth) opened cs := by
  cases m with
  | leaf name attributes content =>
    obtain ⟨hname, hattributes⟩ := h
    simp only [Markup.renderAt, List.append_assoc]
    exact (scans_lineBreak depth rfl).trans <| (scans_startTag hname hattributes.word).trans <|
      (scans_text (notMem_escape content).1 rfl).trans (scans_endTag hname)
  | group name attributes children =>
    obtain ⟨hname, hattributes, hchildren⟩ := h
    have ih := scans_all hchildren (depth + 1) (name.toList :: opened)
    simp only [Markup.renderAt, List.append_assoc]
    exact (scans_lineBreak depth rfl).trans <| (scans_startTag hname hattributes.word).trans <|
      (ih _).trans <| (scans_lineBreak depth rfl).trans (scans_endTag hname)

theorem scans_all {ms : List Markup} (h : AllPlain ms) (depth : Nat) (opened : List (List Char))
    (cs : List Char) : Scans opened (renderAll depth ms ++ cs) (eventsAll depth ms) opened cs := by
  cases ms with
  | nil => exact .refl opened cs
  | cons m ms =>
    rw [renderAll, eventsAll, List.append_assoc]
    exact (Markup.scans h.1 depth opened _).trans (scans_all h.2 depth opened cs)

end

/-! ## Documents -/

theorem declaration_eq : ∃ content : List Char,
    declaration.toList = '<' :: '?' :: (content ++ ['?', '>']) ∧ 0 < content.length ∧
      '>' ∉ content :=
  ⟨"xml version=\"1.0\" encoding=\"UTF-8\"".toList, by decide, by decide,
    by decide⟩

/-- The declaration is read as markup of its own. -/
theorem scans_declaration : Scans [] (declaration.toList ++ cs) [.other] [] cs := by
  obtain ⟨content, hd, hlen, hclose⟩ := declaration_eq
  have hopen : ∀ c ∈ '?' :: content ++ ['?'], decide (c ≠ '>') = true := by
    intro c hc
    rw [decide_eq_true_eq]
    rintro rfl
    simp [hclose] at hc
  have hsplit : splitAngle ('?' :: content ++ ['?'] ++ '>' :: cs) = ('?' :: content ++ ['?'], cs) := by
    rw [splitAngle, takeWhile_append_cons hopen (by simp), dropWhile_append_cons hopen (by simp),
      List.drop_one, List.tail_cons]
  have hlast : ('?' :: content ++ ['?']).length > 2 ∧
      ('?' :: content ++ ['?']).getLast? = some '?' := by
    rw [List.getLast?_concat]
    simpa using hlen
  refine scans_of_found fun offset => ?_
  have hnext : (Reader.mk (declaration.toList ++ cs) offset false []).next =
      nextInstruction ('?' :: content ++ ['?'] ++ '>' :: cs) (offset + 1) [] := by
    rw [hd]
    simp only [List.cons_append, List.append_assoc, List.nil_append]
    rfl
  rw [nextInstruction, hsplit] at hnext
  simp only at hnext
  rw [if_pos hlast] at hnext
  exact ⟨_, _, hnext⟩

/-- **A written document** is read as the declaration and the events of its element. -/
theorem events_render {m : Markup} (h : m.Plain) :
    (events m.render.toList).1.map (·.1) = .other :: m.eventsAt 0 ∧
      (events m.render.toList).2.fault = none := by
  have htext : m.render.toList = declaration.toList ++ (m.renderAt 0 ++ []) := by
    rw [Markup.render, String.toList_append, String.toList_ofList, List.append_nil]
  obtain ⟨offset, found, hfound, hevents⟩ := (scans_declaration.trans (m.scans h 0 [] [])) 0
  have hend : (Reader.mk [] offset false []).events = ([], ⟨offset, none⟩) :=
    Reader.events_of_finished rfl
  have hmark : ∀ cs, declaration.toList ++ (m.renderAt 0 ++ []) = '\ufeff' :: cs → False := by
    obtain ⟨content, hd, -, -⟩ := declaration_eq
    intro cs hcs
    rw [hd, List.cons_append] at hcs
    exact absurd (List.cons.inj hcs).1 (by decide)
  have hstart : events m.render.toList = (found, ⟨offset, none⟩) := by
    rw [htext, events, hevents, hend, List.append_nil]
    exact hmark
  rw [hstart]
  exact ⟨hfound, rfl⟩

end XmlAudit.Xml
