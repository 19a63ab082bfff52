import XmlAudit.Proofs.Xml.Entities
import XmlAudit.Proofs.Xml.Printing

/-!
# Where events end

* `Event.Spelled`: the characters that spell an event.
* `Stretch`, `Ends`: the events of a source with their characters, and the offsets at which they end.
* `Reader.exists_cuts`: what a reader reads is cut into stretches.
* `upTo`, `tagged`: events with the characters up to their ends, and the tags among them.
-/

namespace XmlAudit.Xml

open Text (byteLength isXmlBlank)

variable {event : Event} {es : List (Event × Nat)} {r s : Reader} {opened : List (List Char)}
  {offset stop : Nat} {cs content part rest before : List Char}

/-! ## Lengths -/

@[simp] theorem byteLength_append (as bs : List Char) :
    byteLength (as ++ bs) = byteLength as + byteLength bs := by
  induction as with
  | nil => exact (Nat.zero_add _).symm
  | cons a as ih =>
    have hcons : ∀ cs : List Char, byteLength (a :: cs) = a.utf8Size + byteLength cs := fun _ => rfl
    rw [List.cons_append, hcons, hcons, ih, Nat.add_assoc]

@[simp] theorem byteLength_cons (c : Char) (cs : List Char) :
    byteLength (c :: cs) = c.utf8Size + byteLength cs := rfl

theorem byteLength_pos (h : cs ≠ []) : 0 < byteLength cs := by
  obtain ⟨c, cs, rfl⟩ := List.exists_cons_of_ne_nil h
  have hc := c.utf8Size_pos
  rw [byteLength_cons]
  omega

/-! ## Spelling -/

/-- The signs with which markup other than tags of elements starts behind its bracket. -/
def markupSigns : List Char := ['!', '/', '?']

/-- Where a construct that starts with `<!` closes, given what was read of it, in reverse. -/
def Construct.closes : Construct → List Char → Bool
  | .cdata => closesCdata
  | .comment => closesComment
  | _ => closesDoctype

/-- **The characters that spell an event**: character data, of which a bracket is no part; a tag of an
element up to the first closing bracket outside quotes; an end tag or a processing instruction up to
the first closing bracket; other markup up to the first bracket that closes it. -/
inductive Event.Spelled : Event → List Char → Prop where
  | text {raw : List Char} (hne : raw ≠ []) (hplain : '<' ∉ raw) : Spelled (.text raw) raw
  | tag {content : List Char} (hsign : ∀ c ∈ content.head?, c ∉ markupSigns)
      (hclose : splitTag none (content ++ ['>']) = some (content, [])) :
      Spelled (tagEvent content) ('<' :: (content ++ ['>']))
  | stop {content : List Char} (hplain : '>' ∉ content) :
      Spelled (.stop (endName content)) ('<' :: ('/' :: content ++ ['>']))
  | instruction {content : List Char} (hplain : '>' ∉ content) (hlength : 1 < content.length)
      (hlast : content.getLast? = some '?') : Spelled .other ('<' :: ('?' :: content ++ ['>']))
  | bang {event : Event} {construct : Construct} {content : List Char}
      (hevent : bangEvent construct ('!' :: content) = .ok event)
      (hclose : splitClosing construct.closes [] ('!' :: content ++ ['>']) =
        some ('!' :: content, [])) :
      Spelled event ('<' :: ('!' :: content ++ ['>']))

/-- An end tag or an instruction at the end of the input may lack its closing bracket. -/
def Event.SpelledAtEnd (event : Event) (cs : List Char) : Prop := event.Spelled (cs ++ ['>'])

/-! ## Markup -/

/-- Markup that was found starts the characters behind its bracket and ends at their length. -/
structure Found (event : Event) (stop : Nat) (s : Reader) (cs : List Char) (offset : Nat)
    (part : List Char) : Prop where
  spelled : event.Spelled ('<' :: part) ∨ s.rest = [] ∧ event.SpelledAtEnd ('<' :: part)
  split : cs = part ++ s.rest
  length : stop = offset + byteLength part
  next : s.offset = stop ∧ s.inMarkup = false

theorem splitTag_eq_some {quote : Option Char} (h : splitTag quote cs = some (content, rest)) :
    cs = content ++ '>' :: rest ∧ splitTag quote (content ++ ['>']) = some (content, []) := by
  induction cs generalizing quote content with
  | nil => cases h
  | cons c cs ih =>
    rw [splitTag] at h
    split at h
    · next hclose =>
      cases h
      obtain ⟨rfl, rfl⟩ := hclose
      exact ⟨rfl, rfl⟩
    · next hopen =>
      obtain ⟨⟨front, back⟩, hfront, heq⟩ := Option.map_eq_some_iff.1 h
      obtain ⟨rfl, rfl⟩ := Prod.mk.inj heq
      obtain ⟨rfl, hagain⟩ := ih hfront
      exact ⟨rfl, by rw [List.cons_append, splitTag, if_neg hopen, hagain]; rfl⟩

theorem splitClosing_eq_append {closes : List Char → Bool}
    (h : splitClosing closes before cs = some (content, rest)) :
    before.reverse ++ cs = content ++ '>' :: rest := by
  induction cs generalizing before with
  | nil => cases h
  | cons c cs ih =>
    rw [splitClosing] at h
    split at h
    · next hclose =>
      cases h
      rw [hclose.1]
    · rw [← ih h]
      simp

theorem splitClosing_self {closes : List Char → Bool}
    (h : splitClosing closes [] cs = some (content, rest)) :
    cs = content ++ '>' :: rest ∧ splitClosing closes [] (content ++ ['>']) = some (content, []) := by
  have hsplit : cs = content ++ '>' :: rest := splitClosing_eq_append h
  rw [hsplit] at h
  exact ⟨hsplit, splitClosing_eq_some_iff.2 (splitClosing_eq_some_iff.1 h)⟩

/-- Characters are split behind the first closing bracket, or at the end if there is none. -/
theorem exists_splitAngle (cs : List Char) : '>' ∉ (splitAngle cs).1 ∧
    ∃ front, cs = front ++ (splitAngle cs).2 ∧
      (front = (splitAngle cs).1 ++ ['>'] ∨ (splitAngle cs).2 = [] ∧ front = (splitAngle cs).1) := by
  have hsplit := List.takeWhile_append_dropWhile (p := (· ≠ '>')) (l := cs)
  refine ⟨fun hmem => by simpa using List.mem_takeWhile_imp hmem, ?_⟩
  cases hdrop : cs.dropWhile (· ≠ '>') with
  | nil =>
    have hrest : (splitAngle cs).2 = [] := by rw [splitAngle, hdrop]; rfl
    rw [hdrop] at hsplit
    exact ⟨(splitAngle cs).1, by rw [hrest]; exact hsplit.symm, .inr ⟨hrest, rfl⟩⟩
  | cons d rest =>
    have hhead := List.head_dropWhile_not (fun d : Char => decide (d ≠ '>')) (l := cs)
      (by rw [hdrop]; exact List.cons_ne_nil d rest)
    obtain rfl : d = '>' := by
      simp only [hdrop, List.head_cons] at hhead
      simpa using hhead
    have hrest : (splitAngle cs).2 = rest := by rw [splitAngle, hdrop]; rfl
    rw [hdrop] at hsplit
    exact ⟨(splitAngle cs).1 ++ ['>'], by rw [hrest, List.append_assoc]; exact hsplit.symm, .inl rfl⟩

theorem nextTag_found (hsign : ∀ c ∈ cs.head?, c ∉ markupSigns)
    (h : nextTag cs offset opened = .found event stop s) : ∃ part, Found event stop s cs offset part := by
  unfold nextTag at h
  split at h
  · cases h
  · next content rest hsplit =>
    cases h
    obtain ⟨rfl, hclose⟩ := splitTag_eq_some hsplit
    have hhead : ∀ c ∈ content.head?, c ∉ markupSigns := by
      intro c hc
      refine hsign c ?_
      rw [List.head?_append, hc]
      rfl
    refine ⟨content ++ ['>'], .inl (.tag hhead hclose), by simp, ?_, rfl, rfl⟩
    rw [byteLength_append, Nat.add_assoc]
    rfl

/-- A construct that starts with `<!` is found once its end is. -/
theorem bang_found (construct : Construct) (hread : splitClosing construct.closes [] ('!' :: cs) =
      some (content, rest)) (hevent : bangEvent construct content = .ok event) :
    ∃ part, Found event (offset + byteLength content + 1)
      ⟨rest, offset + byteLength content + 1, false, opened⟩ ('!' :: cs) offset part := by
  obtain ⟨hsplit, hclose⟩ := splitClosing_self hread
  cases content with
  | nil => exact absurd (List.cons.inj hsplit).1 (by decide)
  | cons c content =>
    obtain ⟨rfl, -⟩ := List.cons.inj hsplit
    refine ⟨'!' :: content ++ ['>'], .inl (.bang hevent hclose), by rw [hsplit]; simp, ?_, rfl, rfl⟩
    rw [byteLength_append, Nat.add_assoc]
    rfl

theorem nextBang_found (h : nextBang ('!' :: cs) offset opened = .found event stop s) :
    ∃ part, Found event stop s ('!' :: cs) offset part := by
  unfold nextBang at h
  split at h <;> first | contradiction | skip
  all_goals
    simp only at h
    split at h
    · contradiction
    · next hsplit =>
      split at h
      · next hevent =>
        cases h
        first
          | exact bang_found .cdata hsplit hevent
          | exact bang_found .comment hsplit hevent
          | exact bang_found .doctype hsplit hevent
      · contradiction

theorem nextEnd_found (h : nextEnd cs offset opened = .found event stop s) :
    ∃ part, Found event stop s ('/' :: cs) offset part := by
  unfold nextEnd at h
  split at h
  · cases h
  · simp only at h
    split at h
    · cases h
      obtain ⟨hplain, front, hsplit, hfront⟩ := exists_splitAngle cs
      have hlength := congrArg byteLength hsplit
      have hslash : '/'.utf8Size = 1 := rfl
      rw [byteLength_append] at hlength
      refine ⟨'/' :: front, ?_, congrArg ('/' :: ·) hsplit, ?_, rfl, rfl⟩
      · rcases hfront with rfl | ⟨hrest, rfl⟩
        · exact .inl (.stop hplain)
        · exact .inr ⟨hrest, .stop hplain⟩
      · rw [byteLength_cons]
        omega
    · cases h

theorem nextInstruction_found (h : nextInstruction ('?' :: cs) offset opened = .found event stop s) :
    ∃ part, Found event stop s ('?' :: cs) offset part := by
  have hangle : splitAngle ('?' :: cs) = ('?' :: (splitAngle cs).1, (splitAngle cs).2) := by
    simp [splitAngle]
  unfold nextInstruction at h
  simp only [hangle] at h
  split at h
  · next hclosed =>
    cases h
    obtain ⟨hplain, front, hsplit, hfront⟩ := exists_splitAngle cs
    have hlength := congrArg byteLength hsplit
    rw [byteLength_append] at hlength
    have hlong : 1 < (splitAngle cs).1.length := Nat.lt_of_succ_lt_succ hclosed.1
    have hlast : (splitAngle cs).1.getLast? = some '?' := by
      obtain ⟨c, content, hcontent⟩ := List.exists_cons_of_length_pos (Nat.lt_of_succ_lt hlong)
      rw [hcontent, ← hclosed.2, hcontent]
      exact List.getLast?_cons_cons.symm
    refine ⟨'?' :: front, ?_, congrArg ('?' :: ·) hsplit, ?_, rfl, rfl⟩
    · rcases hfront with rfl | ⟨hrest, rfl⟩
      · exact .inl (.instruction hplain hlong hlast)
      · exact .inr ⟨hrest, .instruction hplain hlong hlast⟩
    · rw [byteLength_cons, byteLength_cons]
      omega
  · cases h

/-- **Markup is found where it is spelled.** -/
theorem nextMarkup_found (h : nextMarkup cs offset opened = .found event stop s) :
    ∃ part, Found event stop s cs offset part := by
  unfold nextMarkup at h
  split at h
  · cases h
  · exact nextBang_found h
  · exact nextEnd_found h
  · exact nextInstruction_found h
  · next hbang hslash hquestion =>
    refine nextTag_found (fun c hc hsign => ?_) h
    obtain ⟨rest, rfl⟩ := List.head?_eq_some_iff.1 hc
    simp only [markupSigns, List.mem_cons, List.not_mem_nil, or_false] at hsign
    rcases hsign with rfl | rfl | rfl
    · exact hbang rest rfl
    · exact hslash rest rfl
    · exact hquestion rest rfl

/-! ## Stretches -/

/-- A stretch of a source: an event and the characters that spell it. -/
structure Stretch where
  event : Event
  chars : List Char

/-- The characters of stretches. -/
def charsOf (ss : List Stretch) : List Char := ss.flatMap Stretch.chars

/-- **Where the events of stretches end** that start at an offset: behind their characters, but for
character data at the end of the input, which ends one byte early. -/
inductive Ends : Nat → List Stretch → List (Event × Nat) → Prop where
  | nil {offset : Nat} : Ends offset [] []
  | cons {offset : Nat} {s : Stretch} {ss : List Stretch} {es : List (Event × Nat)}
      (h : Ends (offset + byteLength s.chars) ss es) :
      Ends offset (s :: ss) ((s.event, offset + byteLength s.chars) :: es)
  | last {offset : Nat} {raw : List Char} (hne : raw ≠ []) :
      Ends offset [⟨.text raw, raw⟩] [(.text raw, offset + byteLength raw - 1)]

/-- **Stretches that spell their events**; the last one may lack its closing bracket. -/
inductive SpelledOut : List Stretch → Prop where
  | nil : SpelledOut []
  | cons {s : Stretch} {ss : List Stretch} (h : s.event.Spelled s.chars) (hlater : SpelledOut ss) :
      SpelledOut (s :: ss)
  | atEnd {s : Stretch} (h : s.event.SpelledAtEnd s.chars) : SpelledOut [s]

/-- **Events cut a source**: they are spelled by stretches with which it starts. -/
structure Cuts (source : List Char) (offset : Nat) (found : List (Event × Nat) × Ending)
    (ss : List Stretch) : Prop where
  spelled : SpelledOut ss
  ends : Ends offset ss found.1
  /-- A bracket at the end of the input is no part of an event. -/
  left : ∃ rest, source = charsOf ss ++ rest ∧ (found.2.fault = none → rest = [] ∨ rest = ['<'])

/-- A stretch in front of others. -/
theorem Cuts.cons {later : List (Event × Nat) × Ending} {ss : List Stretch}
    (hspelled : event.Spelled part) (hstop : stop = offset + byteLength part)
    (h : Cuts rest stop later ss) :
    Cuts (part ++ rest) offset ((event, stop) :: later.1, later.2) (⟨event, part⟩ :: ss) := by
  obtain ⟨left, rfl, hleft⟩ := h.left
  subst hstop
  refine ⟨.cons hspelled h.spelled, .cons h.ends, left, ?_, hleft⟩
  have hcons : charsOf (⟨event, part⟩ :: ss) = part ++ charsOf ss := List.flatMap_cons
  rw [hcons, List.append_assoc]

/-- A stretch at the end of the input. -/
theorem cuts_atEnd {ending : Ending} (hspelled : event.SpelledAtEnd part)
    (hstop : stop = offset + byteLength part) :
    Cuts part offset ([(event, stop)], ending) [⟨event, part⟩] := by
  subst hstop
  exact ⟨.atEnd hspelled, .cons .nil, [], by simp [charsOf], fun _ => .inl rfl⟩

/-- What is read ends where no event is found. -/
theorem cuts_nil {ending : Ending} (h : ending.fault = none → cs = [] ∨ cs = ['<']) :
    Cuts cs offset ([], ending) [] :=
  ⟨.nil, .nil, cs, rfl, h⟩

theorem Reader.events_of_failed {fault : Fault} {position : Nat} (h : r.next = .failed fault position) :
    r.events = ([], ⟨position, some fault⟩) := by
  rw [events]
  split <;> simp_all

theorem nextMarkup_finished (h : nextMarkup cs offset opened = .finished stop) : cs = [] := by
  unfold nextMarkup at h
  split at h
  · rfl
  · unfold nextBang at h
    split at h <;> first | contradiction | skip
    all_goals
      simp only at h
      split at h
      · contradiction
      · split at h <;> contradiction
  · unfold nextEnd at h
    split at h
    · cases h
    · simp only at h
      split at h <;> cases h
  · unfold nextInstruction at h
    simp only at h
    split at h <;> cases h
  · unfold nextTag at h
    split at h <;> cases h

/-- Character data is read up to the next bracket or to the end of the input. -/
theorem Reader.next_text {c : Char} (hc : c ≠ '<') (cs : List Char) (offset : Nat)
    (opened : List (List Char)) :
    ∃ raw, raw ≠ [] ∧ '<' ∉ raw ∧
      ((∃ rest, c :: cs = raw ++ '<' :: rest ∧ (Reader.mk (c :: cs) offset false opened).next =
          .found (.text raw) (offset + byteLength raw)
            ⟨rest, offset + byteLength raw + 1, true, opened⟩) ∨
        c :: cs = raw ∧ (Reader.mk (c :: cs) offset false opened).next =
          .found (.text raw) (offset + byteLength raw - 1)
            ⟨[], offset + byteLength raw, true, opened⟩) := by
  have hsplit := List.takeWhile_append_dropWhile (p := (· ≠ '<')) (l := c :: cs)
  refine ⟨(c :: cs).takeWhile (· ≠ '<'), ?_, ?_, ?_⟩
  · rw [List.takeWhile_cons_of_pos (by simpa using hc)]
    exact List.cons_ne_nil _ _
  · intro hmem
    simpa using List.mem_takeWhile_imp hmem
  · cases hdrop : (c :: cs).dropWhile (· ≠ '<') with
    | nil =>
      rw [hdrop, List.append_nil] at hsplit
      refine .inr ⟨hsplit.symm, ?_⟩
      rw [Reader.next, if_neg Bool.false_ne_true]
      split
      · next heq => cases heq
      · next heq => exact absurd (List.cons.inj heq).1 hc
      · simp only [hdrop]
    | cons d rest =>
      have hhead := List.head_dropWhile_not (fun d : Char => decide (d ≠ '<')) (l := c :: cs)
        (by rw [hdrop]; exact List.cons_ne_nil d rest)
      obtain rfl : d = '<' := by
        simp only [hdrop, List.head_cons] at hhead
        simpa using hhead
      rw [hdrop] at hsplit
      refine .inl ⟨rest, hsplit.symm, ?_⟩
      rw [Reader.next, if_neg Bool.false_ne_true]
      split
      · next heq => cases heq
      · next heq => exact absurd (List.cons.inj heq).1 hc
      · simp only [hdrop]

/-- **A reader cuts what it reads.** -/
theorem Reader.exists_cuts (cs : List Char) (offset : Nat) (opened : List (List Char)) :
    ∃ ss, Cuts cs offset (Reader.mk cs offset false opened).events ss := by
  -- by induction on the length, as every event uses up some of the characters
  induction hlen : cs.length using Nat.strongRecOn generalizing cs offset opened with
  | _ n ih =>
    subst hlen
    cases cs with
    | nil =>
      rw [events_of_finished rfl]
      exact ⟨[], cuts_nil fun _ => .inl rfl⟩
    | cons c text =>
      by_cases hc : c = '<'
      · subst hc
        have hnext : (Reader.mk ('<' :: text) offset false opened).next =
            nextMarkup text (offset + 1) opened := rfl
        cases houtcome : nextMarkup text (offset + 1) opened with
        | found event stop s =>
          obtain ⟨part, hfound⟩ := nextMarkup_found houtcome
          have hbracket : '<'.utf8Size = 1 := rfl
          have hlength : stop = offset + byteLength ('<' :: part) := by
            rw [hfound.length, byteLength_cons, hbracket, Nat.add_assoc]
          obtain ⟨rest, _, _, opened'⟩ := s
          have hlt : rest.length < text.length := nextMarkup_length houtcome
          have hsplit : '<' :: text = ('<' :: part) ++ rest := congrArg ('<' :: ·) hfound.split
          obtain ⟨rfl, rfl⟩ := hfound.next
          rw [events_of_found (hnext.trans houtcome), hsplit]
          rcases hfound.spelled with hspelled | ⟨hrest, hspelled⟩
          · obtain ⟨ss, hss⟩ := ih rest.length (Nat.lt_succ_of_lt hlt) rest _ opened' rfl
            exact ⟨_, hss.cons hspelled hlength⟩
          -- markup that lacks its closing bracket ends the input
          · obtain rfl : rest = [] := hrest
            rw [events_of_finished rfl, List.append_nil]
            exact ⟨_, cuts_atEnd hspelled hlength⟩
        | finished stop =>
          cases nextMarkup_finished houtcome
          rw [events_of_finished (hnext.trans houtcome)]
          exact ⟨[], cuts_nil fun _ => .inr rfl⟩
        | failed fault position =>
          rw [events_of_failed (hnext.trans houtcome)]
          exact ⟨[], cuts_nil fun hnone => by cases hnone⟩
      · obtain ⟨raw, hne, hplain, ⟨rest, hsplit, hnext⟩ | ⟨hsplit, hnext⟩⟩ :=
          Reader.next_text hc text offset opened
        · have hlt : ('<' :: rest).length < (c :: text).length := by
            have hpos := List.length_pos_iff.2 hne
            rw [hsplit, List.length_append]
            omega
          obtain ⟨ss, hss⟩ := ih _ hlt ('<' :: rest) (offset + byteLength raw) opened rfl
          rw [events_of_found hnext, events_inMarkup, hsplit]
          exact ⟨_, hss.cons (.text hne hplain) rfl⟩
        -- character data that ends the input
        · rw [events_of_found hnext, events_of_finished rfl, hsplit]
          exact ⟨[⟨.text raw, raw⟩], .cons (.text hne hplain) .nil, .last hne, [], by simp [charsOf],
            fun _ => .inl rfl⟩

/-! ## Tags and their ends -/

/-- The tags among events, with what comes with them. -/
def tagged {α : Type} (es : List (Event × α)) : List (Tag × α) :=
  es.filterMap fun e => e.1.tag?.map (·, e.2)

/-- The events of stretches, each with the characters up to its end. -/
def upTo (before : List Char) : List Stretch → List (Event × List Char)
  | [] => []
  | s :: ss => (s.event, before ++ s.chars) :: upTo (before ++ s.chars) ss

variable {ss : List Stretch}

theorem Ends.map_fst (h : Ends offset ss es) : es.map (·.1) = ss.map (·.event) := by
  induction h with
  | nil => rfl
  | cons _ ih => rw [List.map_cons, List.map_cons, ih]
  | last => rfl

/-- Events end one behind the other. -/
theorem Ends.sorted (h : Ends offset ss es) : (offset :: es.map (·.2)).Pairwise (· ≤ ·) := by
  induction h with
  | nil => exact List.pairwise_singleton _ _
  | cons _ ih =>
    rw [List.map_cons, List.pairwise_cons_cons_iff_of_trans]
    exact ⟨Nat.le_add_right _ _, ih⟩
  | last hne =>
    have hpos := byteLength_pos hne
    rw [List.map_singleton, List.pairwise_pair]
    omega

/-- Tags end where the characters up to their ends do. -/
theorem Ends.tagged_eq (h : Ends offset ss es) (hoffset : offset = byteLength before) :
    tagged es = (tagged (upTo before ss)).map fun t => (t.1, byteLength t.2) := by
  induction h generalizing before with
  | nil => rfl
  | @cons _ s ss es _ ih =>
    have hlater := @ih (before ++ s.chars) (by rw [byteLength_append, hoffset])
    rw [tagged] at hlater ⊢
    rw [tagged, upTo, List.filterMap_cons, List.filterMap_cons, hlater]
    cases s.event.tag? with
    | none => rfl
    | some tag => simp [hoffset, tagged]
  | last => rfl

/-- What stands up to the end of an event is a front of all characters. -/
theorem prefix_of_mem_upTo {e : Event × List Char} (h : e ∈ upTo before ss) :
    e.2 <+: before ++ charsOf ss := by
  induction ss generalizing before with
  | nil => cases h
  | cons s ss ih =>
    have hcons : charsOf (s :: ss) = s.chars ++ charsOf ss := List.flatMap_cons
    rw [hcons, ← List.append_assoc]
    rcases List.mem_cons.1 h with rfl | h
    · exact List.prefix_append _ _
    · exact ih h

/-- The events of a source cut it behind a byte order mark. -/
theorem exists_cuts_events (source : List Char) :
    ∃ ss, Cuts (behindMark source) 0 (events source) ss := by
  rw [events_eq]
  exact Reader.exists_cuts _ 0 []

end XmlAudit.Xml
