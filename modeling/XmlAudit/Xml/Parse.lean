import XmlAudit.Text.Encoding.Basic
import XmlAudit.Text.Letters
import XmlAudit.Xml.Builder

/-!
# Documents from bytes

* `declaredEncoding?`: the label in the XML declaration.
* `decodeSource`: the characters of a document.
* `LineCursor`: line numbers for offsets that are asked for from the front to the back.
* `Tree.parse`, `Document.parse`: the tree and the document that bytes spell.
-/

namespace XmlAudit.Xml

open Text (Encoding)

/-- A character that an encoding label may hold. -/
def isLabelChar (c : Char) : Bool :=
  c.isAlphanum || c = '.' || c = '_' || c = ':' || c = '-'

/-- The label of an encoding declaration at the start of a text. -/
def labelAt? (cs : List Char) : Option String := do
  let cs ← Text.dropWord "encoding".toList cs
  let cs ← Text.dropWord ['='] (cs.dropWhile Text.isBlank)
  match cs.dropWhile Text.isBlank with
  | quote :: cs =>
    guard (quote = '"' ∨ quote = '\'')
    let label := cs.takeWhile isLabelChar
    guard !label.isEmpty
    match cs.dropWhile isLabelChar with
    | close :: _ =>
      guard (close = '"' ∨ close = '\'')
      return String.ofList label
    | [] => none
  | [] => none

/-- The first encoding declaration that is a word of its own and stands before any `>`. -/
def findLabel? (before : Char) : List Char → Option String
  | [] => none
  | c :: cs =>
    let here := if Text.isWordChar before then none else labelAt? (c :: cs)
    match here with
    | some label => some label
    | none => if c = '>' then none else findLabel? c cs

/-- The encoding label of the XML declaration with which a document starts. -/
def declaredLabel? (cs : List Char) : Option String := do
  let cs ← Text.dropWord "<?xml".toList (cs.dropWhile Text.isBlank)
  match cs with
  | c :: rest => if Text.isBlank c then findLabel? c rest else none
  | [] => none

/-- The part of the input in which the encoding must be declared. -/
def declarationWindow : Nat := 256

/-- The encoding of a document without byte order mark: the declared one, or else UTF-8. -/
def declaredEncoding (bytes : List UInt8) : Except Fault Encoding :=
  match declaredLabel? (Text.Utf8.decodeLossy (bytes.take declarationWindow)) with
  | none => .ok .utf8
  | some label =>
    match Encoding.ofLabel? label with
    | some encoding => .ok encoding
    | none => .error (.unsupportedEncoding label)

/-- The characters of a document; a byte order mark overrides the declared encoding. -/
def decodeSource (bytes : List UInt8) : Except Fault (List Char) := do
  let (encoding, bytes) ← match Text.byteOrderMark? bytes with
    | some marked => pure marked
    | none => do pure (← declaredEncoding bytes, bytes)
  match encoding.decode? bytes with
  | some cs => return cs
  | none => throw (.undecodable encoding.name)

/-- A place in a text: what lies ahead, the byte offset and the line. -/
structure LineCursor where
  ahead : List Char
  offset : Nat
  line : Nat

/-- The cursor moved over every character that starts before the offset `goal`. -/
def advanceTo (goal : Nat) : List Char → Nat → Nat → LineCursor
  | [], offset, line => ⟨[], offset, line⟩
  | c :: cs, offset, line =>
    if offset < goal then
      advanceTo goal cs (offset + c.utf8Size) (if c = '\n' then line + 1 else line)
    else ⟨c :: cs, offset, line⟩

namespace LineCursor

/-- The cursor at the start of a text. -/
def start (source : List Char) : LineCursor := ⟨source, 0, 1⟩

/-- The cursor moved forward to an offset; it never moves back. -/
def advance (k : LineCursor) (goal : Nat) : LineCursor := advanceTo goal k.ahead k.offset k.line

/-- Events with the lines on which they end, and the cursor behind them. -/
def number (k : LineCursor) : List (Event × Nat) → List (Event × Nat) × LineCursor
  | [] => ([], k)
  | (event, stop) :: rest =>
    let next := k.advance stop
    let later := next.number rest
    ((event, next.line) :: later.1, later.2)

end LineCursor

/-- The tree that the characters of a document spell. -/
def parseTree (source : List Char) : Except Malformed Tree := do
  let (found, ending) := events source
  let (numbered, cursor) := (LineCursor.start source).number found
  let builder ← Builder.initial.run numbered
  let lastLine := (cursor.advance ending.position).line
  match ending.fault with
  | some fault => throw ⟨lastLine, fault⟩
  | none => builder.finish.mapError (⟨lastLine, ·⟩)

/-- The tree that the bytes of a document spell: they are decoded, read as events and built. -/
def Tree.parse (bytes : List UInt8) : Except Malformed Tree := do
  parseTree (← (decodeSource bytes).mapError (⟨1, ·⟩))

/-- **Reading a document:** the nodes of the tree that its bytes spell. -/
def Document.parse (bytes : List UInt8) : Except Malformed Document := do
  return .ofTree (← Tree.parse bytes)

end XmlAudit.Xml
