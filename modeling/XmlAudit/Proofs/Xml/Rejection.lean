import XmlAudit.Proofs.Xml.Scope
import XmlAudit.Proofs.Xml.Traversal

/-!
# Events that spell no document

* `openTags`, `entitiesAt`, `Started`: what a list of events leaves open, declares and has begun.
* `Builder.Tracks`: the builder knows this of the events behind it.
* `Malformation`: what events of no document look like.
* `builder_rebuilds`: the builder rebuilds the trees that events spell and refuses malformed events.
-/

namespace XmlAudit.Xml

/-- The tag of an event with which an element starts. -/
def Event.tag? : Event → Option Tag
  | .start tag => some tag
  | .empty tag => some tag
  | _ => none

/-- The tags left open after one more event, the innermost first. -/
def tagsAfter (tags : List Tag) : Event → List Tag
  | .start tag => tag :: tags
  | .stop _ => tags.tail
  | _ => tags

/-- The entities after one more event. -/
def entitiesAfter (en : Entities) : Event → Entities
  | .doctype content => en.declare content
  | _ => en

/-- The start tags that a list of events leaves without their end tags, the innermost first. -/
def openTags (es : List (Event × Nat)) : List Tag := es.foldl (fun tags e => tagsAfter tags e.1) []

/-- The entities that a list of events declares. -/
def entitiesAt (es : List (Event × Nat)) : Entities := es.foldl (fun en e => entitiesAfter en e.1) []

/-- Some event of a list starts an element. -/
def Started (es : List (Event × Nat)) : Prop := ∃ e ∈ es, e.1.tag?.isSome

/-- A tag declares a prefix. -/
def Tag.Declares (tag : Tag) (q : String) : Prop :=
  ∃ r, .ok r ∈ tag.attributes ∧ r.key = "xmlns:".toList ++ q.toList

/-- The name of a tag or of one of its attributes, declarations aside, has a prefix. -/
def Tag.Uses (tag : Tag) (q : String) : Prop :=
  (QName.ofChars tag.name).qualifier = some q ∨
    ∃ r, .ok r ∈ tag.attributes ∧ declaredQualifier? r.key = none ∧
      (QName.ofChars r.key).qualifier = some q

/-- **Events of no document:** a second element or other than blank character data outside the
document element, an element left open, no element at all, or a prefix that is not bound. -/
inductive Malformation (es : List (Event × Nat)) : Prop
  | secondRoot {before after event line} (h : es = before ++ (event, line) :: after)
    (hopen : openTags before = []) (hstarted : Started before) (htag : event.tag?.isSome)
  | textOutside {before after raw text line} (h : es = before ++ (.text raw, line) :: after)
    (hopen : openTags before = []) (htext : expand (entitiesAt before) raw = .ok text)
    (hblank : ¬ text.all Text.isBlank)
  | cdataOutside {before after text line} (h : es = before ++ (.cdata text, line) :: after)
    (hopen : openTags before = []) (hblank : ¬ text.all Text.isBlank)
  | unclosed (h : openTags es ≠ [])
  | noElement (h : ¬ Started es)
  | unboundPrefix {before after event tag line q} (h : es = before ++ (event, line) :: after)
    (htag : event.tag? = some tag) (huses : tag.Uses q) (hxml : q ≠ "xml")
    (hbound : ∀ t ∈ tag :: openTags before, ¬ t.Declares q)

/-! ## What a scope knows -/

section

variable {outer scope : List Declaration} {en : Entities} {tag : Tag} {e : Element} {q : String}

/-- What an element declares stands in its tag. -/
theorem Tag.Spells.declares (h : tag.Spells en outer e)
    (hq : some q ∈ e.declarations.map (·.1)) : tag.Declares q := by
  obtain ⟨attributes, hread, hdecl, -⟩ := h.read
  rw [hdecl] at hq
  obtain ⟨d, hd, hdq⟩ := List.mem_map.1 hq
  obtain ⟨a, ha, had⟩ := List.mem_filterMap.1 hd
  obtain ⟨q', hq', rfl⟩ := Option.map_eq_some_iff.1 had
  obtain ⟨raw, hraw, r, value, rfl, -, rfl⟩ := exists_left_of_forall₂ hread ha
  rw [show q' = some q from hdq, declaredQualifier?_eq_some_iff] at hq'
  rcases hq' with ⟨hnone, -⟩ | ⟨p, hp, hkey⟩
  · cases hnone
  · cases hp
    exact ⟨r, hraw, hkey⟩

theorem mem_of_resolveQualifier {uri : String} (hq : q ≠ "xml")
    (h : resolveQualifier scope q = .ok uri) : some q ∈ scope.map (·.1) := by
  rw [resolveQualifier, if_neg hq] at h
  cases hl : scope.lookup (some q) with
  | none => rw [hl] at h; cases h
  | some uri' => exact List.mem_map.2 ⟨_, mem_of_lookup hl, rfl⟩

/-- The prefixes that a tag uses are bound in the scope of the element that it spells. -/
theorem Tag.Spells.mem_scope (h : tag.Spells en outer e) (hq : q ≠ "xml") (huses : tag.Uses q) :
    some q ∈ (e.declarations.reverse ++ outer).map (·.1) := by
  rcases huses with hname | ⟨r, hr, hplain, hkey⟩
  · have huri := h.uri
    rw [elementUri, h.name, hname] at huri
    obtain ⟨uri, huri, -⟩ := map_eq_ok.1 huri
    exact mem_of_resolveQualifier hq huri
  · obtain ⟨attributes, hread, -, hmap⟩ := h.read
    obtain ⟨a, ha, r', value, hr', -, rfl⟩ := exists_right_of_forall₂ hread hr
    cases hr'
    have hmem : (QName.ofChars r.key, String.ofList value) ∈ plainAttributes attributes :=
      List.mem_filterMap.2 ⟨_, ha, by simp [hplain]⟩
    rw [← hmap] at hmem
    obtain ⟨a, ha, haeq⟩ := List.mem_map.1 hmem
    have huri := h.attributes a ha
    rw [attributeUri, (Prod.mk.inj haeq).1, hkey] at huri
    obtain ⟨uri, huri, -⟩ := map_eq_ok.1 huri
    exact mem_of_resolveQualifier hq huri

/-- What is bound inside a stack of open elements is declared by one of them. -/
theorem Stacked.exists_declared : ∀ {frames : List Frame}, Stacked frames →
    some q ∈ (scopeOf frames).map (·.1) →
    ∃ e ∈ frames.map (·.element), some q ∈ e.declarations.map (·.1)
  | [], _, hq => by simp [scopeOf] at hq
  | frame :: outer, ⟨hscope, _, _, _, houter⟩, hq => by
    rw [scopeOf, hscope, List.map_append, List.mem_append] at hq
    rcases hq with hq | hq
    · exact ⟨_, List.mem_cons_self, by simpa using hq⟩
    · obtain ⟨e, he, hd⟩ := houter.exists_declared hq
      exact ⟨e, List.mem_cons_of_mem _ he, hd⟩

end

/-! ## What the builder knows -/

theorem openTags_concat (es : List (Event × Nat)) (e : Event × Nat) :
    openTags (es ++ [e]) = tagsAfter (openTags es) e.1 := by
  simp [openTags]

theorem entitiesAt_concat (es : List (Event × Nat)) (e : Event × Nat) :
    entitiesAt (es ++ [e]) = entitiesAfter (entitiesAt es) e.1 := by
  simp [entitiesAt]

theorem started_concat {es : List (Event × Nat)} {e : Event × Nat} :
    Started (es ++ [e]) ↔ Started es ∨ e.1.tag?.isSome := by
  simp only [Started, List.mem_append, List.mem_singleton]
  constructor
  · rintro ⟨x, hx | rfl, h⟩
    · exact .inl ⟨x, hx, h⟩
    · exact .inr h
  · rintro (⟨x, hx, h⟩ | h)
    · exact ⟨x, .inl hx, h⟩
    · exact ⟨e, .inr rfl, h⟩

namespace Builder

/-- The tag of an open element declares whatever the element does. -/
def TagOf (e : Element) (tag : Tag) : Prop :=
  ∀ q, some q ∈ e.declarations.map (·.1) → tag.Declares q

/-- **The builder behind a list of events** has its entities, the elements of its open tags, and an
element, open or closed, once one was started. -/
structure Tracks (es : List (Event × Nat)) (b : Builder) : Prop where
  sound : b.Sound
  entities : b.entities = entitiesAt es
  opened : List.Forall₂ TagOf (b.opened.map (·.element)) (openTags es)
  started : Started es ↔ b.opened ≠ [] ∨ b.root.isSome

theorem tracks_initial : Tracks [] initial :=
  ⟨sound_initial, rfl, .nil, by simp [Started, initial]⟩

variable {b b' : Builder} {es : List (Event × Nat)} {event : Event} {line : Nat}

theorem elements_flush (b : Builder) :
    b.flush.opened.map (·.element) = b.opened.map (·.element) := by
  obtain ⟨-, h⟩ | ⟨frame, outer, h, -, h'⟩ := b.opened_flush
  · rw [h]
  · rw [h, h']; rfl

/-- A start tag is tracked whichever event it belongs to. -/
theorem Tracks.start {tag : Tag} (h : Tracks es b) (hb : b.start tag line = .ok b') :
    b'.entities = entitiesAt es ∧
      List.Forall₂ TagOf (b'.opened.map (·.element)) (tag :: openTags es) ∧ b'.opened ≠ [] := by
  obtain ⟨-, e, he, rfl⟩ := start_eq_ok.1 hb
  refine ⟨(entities_flush b).trans h.entities, ?_, List.cons_ne_nil _ _⟩
  rw [enter, List.map_cons, elements_flush]
  exact .cons (fun q hq => he.declares hq) h.opened

/-- An end tag closes the innermost open tag. -/
theorem stop_tracks {tags : List Tag} (h : List.Forall₂ TagOf (b.opened.map (·.element)) tags)
    (hb : b.stop = .ok b') : b'.entities = b.entities ∧
      List.Forall₂ TagOf (b'.opened.map (·.element)) tags.tail ∧
      (b'.opened ≠ [] ∨ b'.root.isSome) ∧ b.opened ≠ [] := by
  obtain ⟨frame, outer, ho, rfl⟩ := stop_eq_ok.1 hb
  rw [← elements_flush, ho] at h
  have hne : b.opened ≠ [] := by
    intro hnil
    have := elements_flush b
    simp [ho, hnil] at this
  refine ⟨by simp, ?_, ?_, hne⟩
  · cases outer with
    | nil => cases h with | cons _ h => simpa [attach] using h
    | cons parent outer => cases h with | cons _ h => simpa [attach] using h
  · cases outer <;> simp [attach]

theorem append_tracks {text : List Char} (hb : b.append text line = .ok b') :
    b'.entities = b.entities ∧ b'.opened = b.opened ∧ b'.root = b.root := by
  rcases append_eq_ok.1 hb with ⟨-, -, rfl⟩ | ⟨-, rfl⟩ <;> exact ⟨rfl, rfl, rfl⟩

/-- **Every event is tracked.** -/
theorem Tracks.step (h : Tracks es b) (hb : b.step event line = .ok b') :
    Tracks (es ++ [(event, line)]) b' := by
  have hsound := h.sound.step hb
  -- events that neither start nor end an element and declare no entities
  have hidle : ∀ {c : Builder}, c.Sound → c.entities = b.entities ∧ c.opened = b.opened ∧
      c.root = b.root → tagsAfter (openTags es) event = openTags es →
      entitiesAfter (entitiesAt es) event = entitiesAt es → event.tag? = none →
      Tracks (es ++ [(event, line)]) c := by
    rintro c hc ⟨he, ho, hr⟩ htags hen htag
    refine ⟨hc, ?_, ?_, ?_⟩
    · rw [entitiesAt_concat, hen, he, h.entities]
    · rw [openTags_concat, htags, ho]
      exact h.opened
    · rw [started_concat, htag, ho, hr, h.started]
      simp
  cases event with
  | start tag =>
    obtain ⟨he, ho, hne⟩ := h.start hb
    exact ⟨hsound, by rwa [entitiesAt_concat], by rwa [openTags_concat],
      by simp [started_concat, Event.tag?, hne]⟩
  | empty tag =>
    obtain ⟨m, hm, hstop⟩ := bind_eq_ok.1 hb
    obtain ⟨he, ho, -⟩ := h.start hm
    obtain ⟨he', ho', hne, -⟩ := stop_tracks ho hstop
    exact ⟨hsound, by rw [entitiesAt_concat]; exact he'.trans he, by rwa [openTags_concat],
      by simp [started_concat, Event.tag?, hne]⟩
  | stop name =>
    obtain ⟨he, ho, hne, hopen⟩ := stop_tracks h.opened hb
    refine ⟨hsound, by rw [entitiesAt_concat]; exact he.trans h.entities,
      by rwa [openTags_concat], ?_⟩
    rw [started_concat, h.started]
    simp [hne, hopen]
  | text raw =>
    simp only [Builder.step] at hb
    split at hb
    · exact hidle hsound (append_tracks hb) rfl rfl rfl
    · cases hb
  | cdata text => exact hidle hsound (append_tracks hb) rfl rfl rfl
  | doctype content =>
    cases hb
    refine ⟨hsound, ?_, ?_, ?_⟩
    · rw [entitiesAt_concat, entitiesAfter, ← h.entities]
    · rw [openTags_concat]
      exact h.opened
    · rw [started_concat, h.started]
      simp [Event.tag?]
  | other =>
    cases hb
    exact hidle hsound ⟨rfl, rfl, rfl⟩ rfl rfl rfl

/-- **All events are tracked.** -/
theorem tracks_of_run (hb : initial.run es = .ok b) : Tracks es b := by
  -- by induction from the end, as the builder knows the events behind it
  induction es using List.reverseRecOn generalizing b with
  | nil => cases hb; exact tracks_initial
  | append_singleton es e ih =>
    obtain ⟨event, line⟩ := e
    obtain ⟨m, hm, hstep⟩ := run_concat_eq_ok.1 hb
    exact (ih hm).step hstep

/-- What an event meets that a builder reads between others. -/
theorem exists_step_of_run {before after : List (Event × Nat)}
    (hb : initial.run (before ++ (event, line) :: after) = .ok b) :
    ∃ m next, Tracks before m ∧ m.step event line = .ok next := by
  rw [run_append] at hb
  obtain ⟨m, hm, hb⟩ := bind_eq_ok.1 hb
  obtain ⟨next, hstep, -⟩ := run_cons_eq_ok.1 hb
  exact ⟨m, next, tracks_of_run hm, hstep⟩

theorem Tracks.opened_eq_nil (h : Tracks es b) (ho : openTags es = []) : b.opened = [] := by
  have h' := h.opened
  rw [ho, List.forall₂_nil_right_iff] at h'
  exact List.map_eq_nil_iff.1 h'

theorem exists_start_of_step {tag : Tag} (htag : event.tag? = some tag)
    (hb : b.step event line = .ok b') : ∃ m, b.start tag line = .ok m := by
  cases event with
  | start t => cases htag; exact ⟨_, hb⟩
  | empty t =>
    cases htag
    obtain ⟨m, hm, -⟩ := bind_eq_ok.1 hb
    exact ⟨m, hm⟩
  | stop | text | cdata | doctype | other => cases htag

end Builder

open Builder

/-- **Malformed events are refused.** -/
theorem Malformation.refused {es : List (Event × Nat)} (h : Malformation es) (lastLine : Nat) :
    ∃ m, buildTree es lastLine = .error m := by
  cases hbuild : buildTree es lastLine with
  | error m => exact ⟨m, rfl⟩
  | ok t =>
    exfalso
    -- what the builder knew where the fault is would have kept it from going on
    obtain ⟨b, hb, ho, hr⟩ := buildTree_eq_ok.1 hbuild
    have htracks := tracks_of_run hb
    cases h with
    | secondRoot h hopen hstarted htag =>
      subst h
      obtain ⟨m, next, hm, hstep⟩ := exists_step_of_run hb
      obtain ⟨tag, htag⟩ := Option.isSome_iff_exists.1 htag
      obtain ⟨c, hc⟩ := exists_start_of_step htag hstep
      have hnil := hm.opened_eq_nil hopen
      have hroot := hm.started.1 hstarted
      rw [hnil] at hroot
      exact (start_eq_ok.1 hc).1 ⟨hnil, hroot.resolve_left (by simp)⟩
    | textOutside h hopen htext hblank =>
      subst h
      obtain ⟨m, next, hm, hstep⟩ := exists_step_of_run hb
      have hnil := hm.opened_eq_nil hopen
      simp only [Builder.step, hm.entities, htext] at hstep
      rcases append_eq_ok.1 hstep with ⟨-, hb, -⟩ | ⟨hne, -⟩
      · exact hblank hb
      · exact hne hnil
    | cdataOutside h hopen hblank =>
      subst h
      obtain ⟨m, next, hm, hstep⟩ := exists_step_of_run hb
      rcases append_eq_ok.1 hstep with ⟨-, hb, -⟩ | ⟨hne, -⟩
      · exact hblank hb
      · exact hne (hm.opened_eq_nil hopen)
    | unclosed h =>
      have hopened := htracks.opened
      rw [ho, List.map_nil, List.forall₂_nil_left_iff] at hopened
      exact h hopened
    | noElement h =>
      refine h (htracks.started.2 (.inr ?_))
      rw [hr]
      rfl
    | unboundPrefix h htag huses hxml hbound =>
      subst h
      obtain ⟨m, next, hm, hstep⟩ := exists_step_of_run hb
      obtain ⟨c, hc⟩ := exists_start_of_step htag hstep
      obtain ⟨-, e, he, -⟩ := start_eq_ok.1 hc
      have hq := he.mem_scope hxml huses
      rw [List.map_append, List.mem_append, List.map_reverse, List.mem_reverse] at hq
      rcases hq with hq | hq
      -- declared by the tag itself, or by one of those left open
      · exact hbound _ List.mem_cons_self (he.declares hq)
      · obtain ⟨e', he', hd⟩ := hm.sound.stacked.exists_declared hq
        obtain ⟨tag', htag', hof⟩ := exists_right_of_forall₂ hm.opened he'
        exact hbound tag' (List.mem_cons_of_mem _ htag') (hof _ hd)

/-! ## What the builder makes of events -/

/-- A tag that is both a start and an end tag is read as one behind the other. -/
theorem run_empty {b : Builder} {tag : Tag} {line : Nat} {after : List (Event × Nat)}
    (line' : Nat) : b.run ((.empty tag, line) :: after) =
      b.run ((.start tag, line) :: (.stop tag.name, line') :: after) := by
  rw [run_cons, run_cons, Builder.step, Builder.step]
  cases hm : b.start tag line with
  | error fault => rfl
  | ok m =>
    obtain ⟨-, e, -, rfl⟩ := start_eq_ok.1 hm
    have hflush : (b.enter e line).flush.opened = (b.enter e line).opened :=
      flush_of_pending (pending_flush b)
    have hstop := stop_eq_ok.2 ⟨_, _, hflush, rfl⟩
    simp only [bind, Except.bind, Except.mapError, hstop, run, Builder.step]

/-- **The builder rebuilds the tree that its events spell**, whatever the pieces that its texts come
in. What it builds has a node for every element and text of the tree, and neither empty texts nor
texts that are neighbours; malformed events are refused. A document that can be read to its end is
what is built from its events. -/
theorem builder_rebuilds (es : List (Event × Nat)) (last : Nat) :
    (∀ t, Traversal es t → buildTree es last = .ok t) ∧
    (∀ t, buildTree es last = .ok t →
      (Document.ofTree t).Holds Document.root Document.documentElement t ∧
      (∀ id, (Document.ofTree t).text? id ≠ some "") ∧
      ∀ id, ((Document.ofTree t).children id).IsChain fun a b =>
        (Document.ofTree t).isElement a ∨ (Document.ofTree t).isElement b) ∧
    (∀ before tag line line' after, es = before ++ (.empty tag, line) :: after →
      buildTree es last =
        buildTree (before ++ (.start tag, line) :: (.stop tag.name, line') :: after) last) ∧
    (Malformation es → ∃ m, buildTree es last = .error m) ∧
    ∀ bytes source, decodeSource bytes = .ok source → (events source).2.fault = none →
      numberedEvents source = es →
      Document.parse bytes = (buildTree es (lastLine source)).map .ofTree := by
  refine ⟨fun t ht => ht.buildTree last, ?_, ?_, fun h => h.refused last, ?_⟩
  · intro t ht
    obtain ⟨he, hb⟩ := buildTree_built ht
    have htidy := Document.tidy_ofTree he hb
    exact ⟨holds_ofTree t, htidy.text_ne, htidy.separated⟩
  · rintro before tag line line' after rfl
    simp only [buildTree, run_append, run_empty line']
  · rintro bytes source hsource hfault rfl
    have hparse : Document.parse bytes = parseTree source >>= fun t => .ok (.ofTree t) := by
      rw [Document.parse, Tree.parse, hsource]
      rfl
    rw [hparse, ← parseTree_eq_buildTree hfault]
    cases parseTree source <;> rfl

/-- The character data of `<a k="v">x<!-- --><![CDATA[y]]><b/></a>`, two pieces around a comment, is
one text. -/
theorem builder_rebuilds_pieces :
    let es : List (Event × Nat) := [(.start ⟨['a'], [' ', 'k', '=', '"', 'v', '"']⟩, 1),
      (.text ['x'], 1), (.other, 1), (.cdata ['y'], 1), (.empty ⟨['b'], []⟩, 1), (.stop ['a'], 1)]
    let t := Tree.element 1 ⟨⟨none, "a"⟩, none, [⟨⟨none, "k"⟩, none, "v"⟩], []⟩
      [.text 1 "xy", .element 1 ⟨⟨none, "b"⟩, none, [], []⟩ []]
    Traversal es t ∧ buildTree es 1 = .ok t := by
  intro es t
  have ha : Tag.Spells [] [] ⟨['a'], [' ', 'k', '=', '"', 'v', '"']⟩
      ⟨⟨none, "a"⟩, none, [⟨⟨none, "k"⟩, none, "v"⟩], []⟩ := by
    have hread : (Tag.mk ['a'] [' ', 'k', '=', '"', 'v', '"']).attributes =
        [.ok ⟨['k'], ['v']⟩] := by cbv
    refine ⟨by decide, ⟨[(['k'], "v")], ?_, by decide, by decide⟩, rfl, ?_⟩
    · rw [hread]
      exact .cons ⟨_, ['v'], rfl, by rfl, rfl⟩ .nil
    · intro a ha
      cases List.mem_singleton.1 ha
      rfl
  have hb : Tag.Spells [] [] ⟨['b'], []⟩ ⟨⟨none, "b"⟩, none, [], []⟩ := by
    have hread : (Tag.mk ['b'] []).attributes = [] := by cbv
    refine ⟨by decide, ⟨[], ?_, rfl, rfl⟩, rfl, by simp⟩
    rw [hread]
    exact .nil
  have h : Traversal es t := by
    refine ⟨[], es, [], [], [], [], [], [], by simp, .nil, by simp, ?_, .nil, by simp⟩
    have hrun : Pieces [] [(.text ['x'], 1), (.other, 1), (.cdata ['y'], 1)]
        [(['x'], 1), (['y'], 1)] [] := .text (by rfl) (.other (.cdata .nil))
    exact .element ha (.child hrun (.empty hb) (.pieces .nil))
  exact ⟨h, (builder_rebuilds es 1).1 t h⟩

end XmlAudit.Xml
