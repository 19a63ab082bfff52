import XmlAudit.Proofs.Xml.Declaring
import XmlAudit.Proofs.Xml.ReadBack
import XmlAudit.Proofs.Xml.Rejection

/-!
# The entities of a document

* `Event.Holds`: the character data and attribute values in which references are replaced.
* `Event.Holds.expands`: a builder that reads an event expands what it holds.
* `ExpandsAsDeclared`: what references behind a document type declaration do to a document.
* `declared_entities_expand`: they mean what is declared.
-/

namespace XmlAudit.Xml

/-- The characters of a document behind a byte order mark. -/
def behindMark : List Char → List Char
  | '\ufeff' :: cs => cs
  | cs => cs

theorem events_eq (source : List Char) :
    events source = (Reader.mk (behindMark source) 0 false []).events := by
  unfold events
  split
  · rfl
  · next h =>
    rw [behindMark]
    exact h

/-- A document type declaration. -/
def Event.isDoctype : Event → Bool
  | .doctype _ => true
  | _ => false

/-- The character data and the attribute values of an event, as written. -/
inductive Event.Holds : Event → List Char → Prop
  | text {raw} : Holds (.text raw) raw
  | value {event tag r} (htag : event.tag? = some tag) (hr : .ok r ∈ tag.attributes) :
    Holds event r.value

/-- A name that is looked up among the declared entities. -/
structure IsEntityReference (name : List Char) : Prop where
  reference : IsReference name
  noNumber : name.head? ≠ some '#'
  notPredefined : predefined.lookup (String.ofList name) = none

/-- **References mean what was declared**, in the events `back` of a document that follow the events
`before`, by which `ds` is declared. -/
structure ExpandsAsDeclared (ds : List (String × List Char)) (bytes : List UInt8)
    (source : List Char) (before back : List (Event × Nat)) : Prop where
  /-- Exactly the declared names stand for something. -/
  declared : ∀ n, n ∈ ds.map (·.1) ↔ ∃ value, Defines ds n value
  /-- A reference is replaced by what the first declaration of its name makes of it. -/
  reference : ∀ {name}, IsEntityReference name → ∀ front behind cs,
    expand (entitiesAt before) (front ++ '&' :: (name ++ ';' :: behind)) = .ok cs ↔
      ∃ cs₁ value cs₂, expand (entitiesAt before) front = .ok cs₁ ∧
        Defines ds (String.ofList name) value ∧ expand (entitiesAt before) behind = .ok cs₂ ∧
        cs = cs₁ ++ (value ++ cs₂)
  /-- A document whose events spell a tree with such texts and attribute values has that tree. -/
  reads : ∀ {blanks front blanks' middle t after blanks''},
    (events source).2.fault = none → Pieces [] before blanks (entitiesAt before) →
    back = front ++ middle ++ after →
    Pieces (entitiesAt before) front blanks' (entitiesAt before) →
    TreeEvents [] (entitiesAt before) middle t (entitiesAt before) →
    Pieces (entitiesAt before) after blanks'' (entitiesAt before) →
    (∀ p ∈ blanks ++ blanks' ++ blanks'', p.1.all Text.isBlank) →
    Document.parse bytes = .ok (.ofTree t)
  /-- A document with a reference to any other name is refused. -/
  refuses : ∀ {name}, IsEntityReference name → String.ofList name ∉ ds.map (·.1) →
    ∀ e ∈ back, ∀ front behind, e.1.Holds (front ++ '&' :: (name ++ ';' :: behind)) →
      ∃ m, Document.parse bytes = .error m

section

variable {es before back : List (Event × Nat)} {event : Event} {line : Nat} {source : List Char}
  {bytes : List UInt8} {raw : List Char}

/-- Events without a document type declaration leave the entities as they are. -/
theorem foldl_entitiesAfter (h : ∀ e ∈ es, e.1.isDoctype = false) (en : Entities) :
    es.foldl (fun en e => entitiesAfter en e.1) en = en := by
  induction es with
  | nil => rfl
  | cons e es ih =>
    have he : entitiesAfter en e.1 = en := by
      have := h e List.mem_cons_self
      cases hevent : e.1 <;> first | rfl | (rw [hevent] at this; cases this)
    rw [List.foldl_cons, he]
    exact ih fun e' he' => h e' (List.mem_cons_of_mem e he')

/-- **What an event holds is expanded** when a builder reads it. -/
theorem Event.Holds.expands {b b' : Builder} (h : event.Holds raw)
    (hb : b.step event line = .ok b') : ∃ cs, expand b.entities raw = .ok cs := by
  cases h with
  | text =>
    simp only [Builder.step] at hb
    split at hb
    · next cs hcs => exact ⟨cs, hcs⟩
    · cases hb
  | value htag hr =>
    obtain ⟨m, hm⟩ := Builder.exists_start_of_step htag hb
    obtain ⟨-, e, he, -⟩ := Builder.start_eq_ok.1 hm
    obtain ⟨attributes, hread, -⟩ := he.read
    obtain ⟨a, -, r, value, heq, hvalue, -⟩ := exists_right_of_forall₂ hread hr
    cases heq
    exact ⟨value, hvalue⟩

/-- Whatever stands in a document that can be read expands by the entities declared before it. -/
theorem exists_expansion {d : Document} (hsource : decodeSource bytes = .ok source)
    (hparse : Document.parse bytes = .ok d)
    (hevents : numberedEvents source = before ++ (event, line) :: back) (h : event.Holds raw) :
    ∃ cs, expand (entitiesAt before) raw = .ok cs := by
  obtain ⟨t, ht, -⟩ := Document.parse_eq_ok.1 hparse
  obtain ⟨source', hsource', hbuild⟩ := Tree.parse_eq_ok.1 ht
  rw [hsource] at hsource'
  cases hsource'
  obtain ⟨b, hrun, -⟩ := buildTree_eq_ok.1 (parseTree_eq_ok.1 hbuild).2
  rw [hevents] at hrun
  obtain ⟨m, next, hm, hstep⟩ := Builder.exists_step_of_run hrun
  rw [← hm.entities]
  exact h.expands hstep

theorem Pieces.append {en en' en'' : Entities} {es' : List (Event × Nat)} {ps ps' : List Piece}
    (h : Pieces en es ps en') (h' : Pieces en' es' ps' en'') :
    Pieces en (es ++ es') (ps ++ ps') en'' := by
  induction h with
  | nil => exact h'
  | text hcs _ ih => exact .text hcs (ih h')
  | cdata _ ih => exact .cdata (ih h')
  | doctype _ ih => exact .doctype (ih h')
  | other _ ih => exact .other (ih h')

/-- The events of a document around its document type declaration. -/
theorem numberedEvents_eq {front : List Event} {content rest : List Char}
    (h : Scans [] (behindMark source) (front ++ [.doctype content]) [] rest) :
    ∃ before line back offset, numberedEvents source = before ++ (.doctype content, line) :: back ∧
      before.map (·.1) = front ∧
      back.map (·.1) = (Reader.mk rest offset false []).events.1.map (·.1) := by
  obtain ⟨offset, found, hfound, hevents⟩ := h 0
  have hmap : (numberedEvents source).map (·.1) =
      front ++ (.doctype content :: (Reader.mk rest offset false []).events.1.map (·.1)) := by
    rw [numberedEvents, LineCursor.map_number, events_eq, hevents, List.map_append, hfound,
      List.append_assoc, List.singleton_append]
  obtain ⟨before, others, hsplit, hbefore, hothers⟩ := List.map_eq_append_iff.1 hmap
  obtain ⟨⟨event, line⟩, back, rfl, rfl, hback⟩ := List.map_eq_cons_iff.1 hothers
  exact ⟨before, line, back, offset, hsplit, hbefore, hback⟩

/-- With one document type declaration, nothing else is declared before it or behind it. -/
theorem isDoctype_eq_false {d : Event × Nat}
    (h : (before ++ d :: back).countP (·.1.isDoctype) = 1) (hd : d.1.isDoctype = true) :
    (∀ e ∈ before, e.1.isDoctype = false) ∧ ∀ e ∈ back, e.1.isDoctype = false := by
  have hcount : (d :: back).countP (·.1.isDoctype) = back.countP (·.1.isDoctype) + 1 :=
    List.countP_cons_of_pos hd
  rw [List.countP_append, hcount] at h
  have hbefore : before.countP (·.1.isDoctype) = 0 := by omega
  have hback : back.countP (·.1.isDoctype) = 0 := by omega
  simp only [List.countP_eq_zero, Bool.not_eq_true] at hbefore hback
  exact ⟨hbefore, hback⟩

/-- **References expand as the document type declaration declares.** It is read as one event, and
what follows it is read with the values of the general entities that its parts declare, wherever
nothing in comments, instructions and other declarations is taken for one. -/
theorem declared_entities_expand {d : Doctype} (hd : d.WellFormed) (hplain : d.Plain)
    (hvalues : Settled (declared d.parts)) {front : List Event} {rest : List Char}
    (hsource : decodeSource bytes = .ok source)
    (hfront : Scans [] (behindMark source) front [] (d.text ++ rest))
    (hone : (numberedEvents source).countP (·.1.isDoctype) = 1) :
    ∃ before line back offset, numberedEvents source = before ++ (.doctype d.content, line) :: back ∧
      before.map (·.1) = front ∧
      back.map (·.1) = (Reader.mk rest offset false []).events.1.map (·.1) ∧
      ExpandsAsDeclared (declared d.parts) bytes source
        (before ++ [(.doctype d.content, line)]) back := by
  obtain ⟨before, line, back, offset, hevents, hbefore, hback⟩ :=
    numberedEvents_eq (hfront.trans (Doctype.scans hd hplain rest))
  rw [hevents] at hone
  obtain ⟨hnone, hnone'⟩ := isDoctype_eq_false hone rfl
  have hentities : entitiesAt (before ++ [(.doctype d.content, line)]) = tableOf (declared d.parts) := by
    rw [entitiesAt_concat, entitiesAt, foldl_entitiesAfter hnone]
    exact Doctype.declare_content hd hplain
  refine ⟨before, line, back, offset, hevents, hbefore, hback, ?_⟩
  constructor
  · exact fun n => (exists_defines_iff hvalues).symm
  · intro name hname front behind cs
    simp only [hentities, expand_tableOf hvalues]
    rw [expands_append_reference hname.reference]
    simp only [refers_iff hname.noNumber hname.notPredefined]
  · intro blanks front blanks' middle t after blanks'' hfault h₁ hsplit h₂ ht h₃ hblank
    rw [List.append_assoc, List.forall_mem_append] at hblank
    obtain ⟨hblank, hblank'⟩ := hblank
    rw [List.forall_mem_append] at hblank'
    have hspelled : Traversal (numberedEvents source) t := by
      refine ⟨_, middle, after, _, blanks'', _, _, _, ?_, h₁.append h₂, ?_, ht, h₃, hblank'.2⟩
      · rw [hevents, hsplit]
        simp
      · rw [List.forall_mem_append]
        exact ⟨hblank, hblank'.1⟩
    refine Document.parse_eq_ok.2 ⟨t, Tree.parse_eq_ok.2 ⟨source, hsource, ?_⟩, rfl⟩
    rw [parseTree_eq_buildTree hfault]
    exact hspelled.buildTree _
  · intro name hname hundeclared e he front behind hholds
    cases hparse : Document.parse bytes with
    | error m => exact ⟨m, rfl⟩
    | ok doc =>
      exfalso
      obtain ⟨back₁, back₂, rfl⟩ := List.append_of_mem he
      have hat : numberedEvents source =
          (before ++ [(.doctype d.content, line)] ++ back₁) ++ e :: back₂ := by
        rw [hevents]
        simp
      obtain ⟨cs, hcs⟩ := exists_expansion hsource hparse hat hholds
      have hsame : entitiesAt (before ++ [(.doctype d.content, line)] ++ back₁) =
          tableOf (declared d.parts) := by
        rw [entitiesAt, List.foldl_append, ← entitiesAt, hentities]
        exact foldl_entitiesAfter (fun e he => hnone' e (List.mem_append_left _ he)) _
      rw [hsame, expand_tableOf hvalues] at hcs
      obtain ⟨value, hvalue⟩ := hcs.refers hname.reference
      rw [refers_iff hname.noNumber hname.notPredefined] at hvalue
      exact hundeclared ((exists_defines_iff hvalues).1 ⟨value, hvalue⟩)

/-- In a document with `<!ENTITY v "A &amp; B">` and, behind it, `<!ENTITY g 'Hi &v;'>`, the reference
`&g;` stands for `Hi A & B`. A later value of `v` does not count, nor do a parameter entity of that
name and what is said in a comment. -/
theorem declared_entities_expand_nested :
    let d : Doctype := ⟨" ".toList, "r ".toList, [.comment " v ".toList,
      .parameter " ".toList " v 'p'".toList, .general ⟨['v'], "A &amp; B".toList, '"', [' '], [' '], []⟩,
      .instruction "x".toList, .external [' '] ['w'] [' '] "SYSTEM 'w'".toList,
      .general ⟨['g'], "Hi &v;".toList, '\'', [' '], [' '], [' ']⟩, .between "\n".toList,
      .general ⟨['v'], "late".toList, '"', [' '], [' '], []⟩], []⟩
    let source := d.text ++ "<r a='&v;'>&g;</r>".toList
    let bytes := Text.Utf8.encode (String.ofList source)
    (∃ before line back, numberedEvents source = before ++ (.doctype d.content, line) :: back ∧
      ExpandsAsDeclared (declared d.parts) bytes source
        (before ++ [(.doctype d.content, line)]) back) ∧
      Defines (declared d.parts) "g" "Hi A & B".toList ∧
      ∃ doc, Document.parse bytes = .ok doc ∧
        doc.stringValue Document.documentElement = "Hi A & B" ∧
        (doc.element? Document.documentElement).map (·.attributes.map (·.value)) = some ["A & B"] := by
  intro d source bytes
  have hd : d.WellFormed := ⟨by simp [d, Text.isXmlBlank], ⟨'r', [' '], by decide, by decide⟩, by decide +kernel⟩
  have hquiet : ∀ p ∈ d.parts, p.declaration? = none → '<' ∉ p.text.tail := by decide +kernel
  have hplain : d.Plain := by
    have hread : splitClosing closesDoctype [] (d.content ++ '>' :: []) = some (d.content, []) := by
      decide +kernel
    refine ⟨splitClosing_balanced_iff.1 hread, quiet_of_notMem (by decide), ?_,
      quiet_of_notMem (by decide)⟩
    intro front p back hsplit hp
    exact quiet_of_notMem (hquiet p (by rw [hsplit]; simp) hp)
  have hvalues : Settled (declared d.parts) :=
    ((settled_nil.concat fun _ => ⟨_, rfl⟩).concat fun _ => ⟨_, rfl⟩).concat
      fun h => absurd rfl (h ("v", "A &amp; B".toList) (by decide))
  have hsource : decodeSource bytes = .ok source := by
    have hdecoded : (decodeSource bytes).toOption = some source := by decide +kernel
    exact toOption_eq_some.1 hdecoded
  have hfront : Scans [] (behindMark source) [] [] (d.text ++ "<r a='&v;'>&g;</r>".toList) :=
    Scans.refl [] _
  obtain ⟨before, line, back, -, hevents, -, -, h⟩ :=
    declared_entities_expand hd hplain hvalues hsource hfront (by decide +kernel)
  have hparsed : (Document.parse bytes).toOption.any (fun doc =>
      doc.stringValue Document.documentElement = "Hi A & B" ∧
        (doc.element? Document.documentElement).map (·.attributes.map (·.value)) =
          some ["A & B"]) = true := by
    decide +kernel
  obtain ⟨doc, hdoc, hfound⟩ := (Option.any_eq_true _ _).1 hparsed
  have hdefined : (tableOf (declared d.parts)).lookup "g" =
      some (String.ofList "Hi A & B".toList) := by
    decide +kernel
  exact ⟨⟨before, line, back, hevents, h⟩, (holds_tableOf hvalues).1 hdefined, doc,
    toOption_eq_some.1 hdoc, of_decide_eq_true hfound⟩

end

end XmlAudit.Xml
