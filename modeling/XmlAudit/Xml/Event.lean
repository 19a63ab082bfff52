import XmlAudit.Text.Utf8
import XmlAudit.Xml.Fault

/-!
# The events of a document

A document is read as a sequence of events: tags, character data and the rest of the markup.

* `Event.next`: the first event of what is left of the input.
* `events`: all events with the offsets at which they end, and how the reading ended.
-/

namespace XmlAudit.Xml

open Text (byteLength isXmlBlank)

/-- A start tag: the name and, up to the closing bracket, everything after the name. -/
structure Tag where
  name : List Char
  rest : List Char
deriving DecidableEq, Repr, Inhabited

/-- What a document is made of, character data still with its references. -/
inductive Event where
  | start (tag : Tag)
  | empty (tag : Tag)
  | stop (name : List Char)
  | text (raw : List Char)
  | cdata (text : List Char)
  | doctype (content : List Char)
  /-- A comment, a processing instruction or the XML declaration. -/
  | other
deriving DecidableEq, Repr

/-- What the reader knows between events: the input left with its byte offset, whether a `<` has
just been passed, and the names of the open elements, the innermost first. -/
structure Reader where
  rest : List Char
  offset : Nat
  inMarkup : Bool
  opened : List (List Char)

/-- The outcome of looking for the next event. -/
inductive Outcome where
  /-- An event that ends at the offset `stop`. -/
  | found (event : Event) (stop : Nat) (reader : Reader)
  | finished (stop : Nat)
  | failed (fault : Fault) (position : Nat)

/-- The quote inside which a tag is being read, if any, after one more character. -/
def quoteAfter (quote : Option Char) (c : Char) : Option Char :=
  match quote with
  | some q => if c = q then none else quote
  | none => if c = '"' ∨ c = '\'' then some c else none

/-- The characters before the first `>` outside quotes, and those after it. -/
def splitTag : Option Char → List Char → Option (List Char × List Char)
  | _, [] => none
  | quote, c :: cs =>
    if c = '>' ∧ quote = none then some ([], cs)
    else (splitTag (quoteAfter quote c) cs).map fun r => (c :: r.1, r.2)

/-- The characters before the first `>` at which `closes` holds of what was read, in reverse, and
those after it. -/
def splitClosing (closes : List Char → Bool) :
    List Char → List Char → Option (List Char × List Char)
  | _, [] => none
  | before, c :: cs =>
    if c = '>' ∧ closes before then some (before.reverse, cs)
    else splitClosing closes (c :: before) cs

/-- The characters before the first `>`, and those after it; all of them if there is none. -/
def splitAngle (cs : List Char) : List Char × List Char :=
  (cs.takeWhile (· ≠ '>'), (cs.dropWhile (· ≠ '>')).drop 1)

/-- A comment closes after two dashes that are not those that open it. -/
def closesComment (before : List Char) : Bool :=
  before.length > 4 && match before with
    | '-' :: '-' :: _ => true
    | _ => false

/-- Character data closes after two brackets. -/
def closesCdata (before : List Char) : Bool :=
  match before with
  | ']' :: ']' :: _ => true
  | _ => false

/-- A document type declaration closes where as many brackets were closed as were opened. -/
def closesDoctype (before : List Char) : Bool :=
  before.count '<' = before.count '>'

/-- The characters after a leading word, letter case aside. -/
def dropWordAnyCase : List Char → List Char → Option (List Char)
  | [], cs => some cs
  | w :: ws, c :: cs => if w.toLower = c.toLower then dropWordAnyCase ws cs else none
  | _ :: _, [] => none

/-- The event of markup that starts with `<!`, given its characters up to the closing bracket. -/
def bangEvent (construct : Construct) (content : List Char) : Except Fault Event :=
  match construct with
  | .comment =>
    match content with
    | '!' :: '-' :: '-' :: _ => .ok .other
    | _ => .error (.unexpectedEnd construct)
  | .cdata =>
    match dropWordAnyCase "![CDATA[".toList content with
    | some text => .ok (.cdata (text.take (text.length - 2)))
    | none => .error (.unexpectedEnd construct)
  | .doctype =>
    match dropWordAnyCase "!DOCTYPE".toList content with
    | some text =>
      match text.dropWhile isXmlBlank with
      | [] => .error .emptyDoctype
      | declaration => .ok (.doctype declaration)
    | none => .error (.unexpectedEnd construct)
  | _ => .error (.unexpectedEnd construct)

/-- Reads markup from its `!` on; `offset` is that of the `!`. -/
def nextBang (cs : List Char) (offset : Nat) (opened : List (List Char)) : Outcome :=
  let read (construct : Construct) (closes : List Char → Bool) : Outcome :=
    match splitClosing closes [] cs with
    | none => .failed (.unexpectedEnd construct) offset
    | some (content, rest) =>
      let stop := offset + byteLength content + 1
      match bangEvent construct content with
      | .ok event => .found event stop ⟨rest, stop, false, opened⟩
      | .error fault => .failed fault stop
  -- one character tells what is read; the rest of the word is checked once the end is found
  match cs.tail with
  | '[' :: _ => read .cdata closesCdata
  | '-' :: _ => read .comment closesComment
  | 'D' :: _ => read .doctype closesDoctype
  | 'd' :: _ => read .doctype closesDoctype
  | c :: _ => .failed (.unknownBang (Text.Utf8.firstByte c)) offset
  | [] => .failed (.unexpectedEnd .bang) offset

/-- The name in an end tag: blanks after it are no part of it, unless there is nothing else. -/
def endName (cs : List Char) : List Char :=
  match cs.reverse.dropWhile isXmlBlank with
  | [] => cs
  | kept => kept.reverse

/-- Reads an end tag, given what follows its slash; `offset` is that of the slash. -/
def nextEnd (cs : List Char) (offset : Nat) (opened : List (List Char)) : Outcome :=
  let content := (splitAngle cs).1
  let rest := (splitAngle cs).2
  let stop := offset + 1 + (byteLength cs - byteLength rest)
  let before := stop - (1 + byteLength content)
  match opened with
  | [] => .failed (.mismatchedEnd "" (String.ofList content)) before
  | expected :: outer =>
    let name := endName content
    if name = expected then .found (.stop name) stop ⟨rest, stop, false, outer⟩
    else .failed (.mismatchedEnd (String.ofList expected) (String.ofList name)) before

/-- Reads a processing instruction from its `?` on; `offset` is that of the `?`. -/
def nextInstruction (cs : List Char) (offset : Nat) (opened : List (List Char)) : Outcome :=
  let content := (splitAngle cs).1
  let rest := (splitAngle cs).2
  let stop := offset + (byteLength cs - byteLength rest)
  if content.length > 2 ∧ content.getLast? = some '?' then
    .found .other stop ⟨rest, stop, false, opened⟩
  else .failed (.unexpectedEnd .instruction) (stop - byteLength content)

/-- The event of a tag, given what stands between its brackets. -/
def tagEvent (content : List Char) : Event :=
  let name := content.takeWhile (!isXmlBlank ·)
  let rest := content.dropWhile (!isXmlBlank ·)
  if content.getLast? = some '/' then
    if rest.isEmpty then .empty ⟨name.dropLast, []⟩ else .empty ⟨name, rest.dropLast⟩
  else .start ⟨name, rest⟩

/-- Reads a start tag; `offset` is that of its name. -/
def nextTag (cs : List Char) (offset : Nat) (opened : List (List Char)) : Outcome :=
  match splitTag none cs with
  | none => .failed (.unexpectedEnd .element) offset
  | some (content, rest) =>
    let stop := offset + byteLength content + 1
    let event := tagEvent content
    let opened := match event with
      | .start tag => tag.name :: opened
      | _ => opened
    .found event stop ⟨rest, stop, false, opened⟩

/-- Reads markup, given what follows its `<`; `offset` is that of what follows. -/
def nextMarkup (cs : List Char) (offset : Nat) (opened : List (List Char)) : Outcome :=
  match cs with
  | [] => .finished offset
  | '!' :: _ => nextBang cs offset opened
  | '/' :: rest => nextEnd rest offset opened
  | '?' :: _ => nextInstruction cs offset opened
  | _ => nextTag cs offset opened

/-- Looks for the next event: character data up to a `<`, or markup. Character data that ends the
input ends one byte early. -/
def Reader.next (r : Reader) : Outcome :=
  if r.inMarkup then nextMarkup r.rest r.offset r.opened
  else
    match r.rest with
    | [] => .finished r.offset
    | '<' :: cs => nextMarkup cs (r.offset + 1) r.opened
    | _ =>
      let text := r.rest.takeWhile (· ≠ '<')
      let stop := r.offset + byteLength text
      match r.rest.dropWhile (· ≠ '<') with
      | _ :: cs => .found (.text text) stop ⟨cs, stop + 1, true, r.opened⟩
      | [] => .found (.text text) (stop - 1) ⟨[], stop, true, r.opened⟩

/-- How the reading of a document ended. -/
structure Ending where
  position : Nat
  fault : Option Fault
deriving DecidableEq, Repr

variable {cs content rest before : List Char} {opened : List (List Char)} {offset stop : Nat}

variable {event : Event} {r s : Reader}

theorem splitTag_length {quote : Option Char} (h : splitTag quote cs = some (content, rest)) :
    rest.length < cs.length := by
  induction cs generalizing quote content with
  | nil => simp [splitTag] at h
  | cons c cs ih =>
    rw [splitTag] at h
    split at h
    · simp_all
    · obtain ⟨⟨a, b⟩, hab, heq⟩ := Option.map_eq_some_iff.1 h
      simp only [Prod.mk.injEq] at heq
      have := ih (heq.2 ▸ hab)
      simp only [List.length_cons]
      omega

theorem splitClosing_length {closes : List Char → Bool}
    (h : splitClosing closes before cs = some (content, rest)) : rest.length < cs.length := by
  induction cs generalizing before with
  | nil => simp [splitClosing] at h
  | cons c cs ih =>
    rw [splitClosing] at h
    split at h
    · simp_all
    · have := ih h
      simp only [List.length_cons]
      omega

theorem splitAngle_length (cs : List Char) : (splitAngle cs).2.length ≤ cs.length := by
  have := (List.dropWhile_sublist (fun c : Char => decide (c ≠ '>')) (l := cs)).length_le
  simp only [splitAngle, List.length_drop]
  omega

theorem nextBang_length (h : nextBang cs offset opened = .found event stop s) :
    s.rest.length < cs.length := by
  unfold nextBang at h
  split at h <;> first | contradiction | skip
  all_goals
    simp only at h
    split at h
    · contradiction
    · next hsplit =>
      split at h
      · cases h; exact splitClosing_length hsplit
      · contradiction

theorem nextEnd_length (h : nextEnd cs offset opened = .found event stop s) :
    s.rest.length ≤ cs.length := by
  unfold nextEnd at h
  split at h
  · contradiction
  · simp only at h
    split at h
    · cases h; exact splitAngle_length cs
    · contradiction

theorem nextInstruction_length
    (h : nextInstruction ('?' :: cs) offset opened = .found event stop s) :
    s.rest.length < cs.length + 1 := by
  have hangle : (splitAngle ('?' :: cs)).2 = (splitAngle cs).2 := by simp [splitAngle]
  unfold nextInstruction at h
  simp only at h
  split at h
  · cases h
    have := splitAngle_length cs
    simp only [hangle]
    omega
  · contradiction

theorem nextTag_length (h : nextTag cs offset opened = .found event stop s) :
    s.rest.length < cs.length := by
  unfold nextTag at h
  split at h
  · contradiction
  · next hsplit => cases h; exact splitTag_length hsplit

theorem nextMarkup_length (h : nextMarkup cs offset opened = .found event stop s) :
    s.rest.length < cs.length := by
  unfold nextMarkup at h
  split at h
  · contradiction
  · exact nextBang_length h
  · have := nextEnd_length h
    simp only [List.length_cons]
    omega
  · exact nextInstruction_length h
  · exact nextTag_length h

/-- **Every event uses up some of the input.** -/
theorem Reader.next_length (h : r.next = .found event stop s) : s.rest.length < r.rest.length := by
  unfold Reader.next at h
  split at h
  · exact nextMarkup_length h
  · split at h
    · contradiction
    · next hr =>
      have := nextMarkup_length h
      rw [hr, List.length_cons]
      omega
    · next hnil hlt =>
      -- character data is not empty, as its first character is no `<`
      obtain ⟨c, cs, hr⟩ := List.exists_cons_of_ne_nil hnil
      have hc : c ≠ '<' := fun hc => hlt cs (hc ▸ hr)
      have hlen := (List.dropWhile_sublist (fun c : Char => decide (c ≠ '<')) (l := cs)).length_le
      simp only [hr, List.dropWhile_cons, hc, ne_eq, not_false_eq_true, decide_true, if_true] at h
      split at h
      · next hd =>
        cases h
        rw [hd] at hlen
        simp only [hr, List.length_cons] at hlen ⊢
        omega
      · cases h
        simp [hr]

/-- The events from a point of the input on, each with the offset at which it ends. -/
def Reader.events (r : Reader) : List (Event × Nat) × Ending :=
  match h : r.next with
  | .found event stop next =>
    have : next.rest.length < r.rest.length := Reader.next_length h
    let later := next.events
    ((event, stop) :: later.1, later.2)
  | .finished stop => ([], ⟨stop, none⟩)
  | .failed fault position => ([], ⟨position, some fault⟩)
termination_by r.rest.length

/-- The events of a document, of which a leading byte order mark is no part. -/
def events (source : List Char) : List (Event × Nat) × Ending :=
  match source with
  | '\ufeff' :: cs => (Reader.mk cs 0 false []).events
  | cs => (Reader.mk cs 0 false []).events

end XmlAudit.Xml
