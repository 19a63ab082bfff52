import XmlAudit.Text.Replace
import XmlAudit.Text.Utf8
import XmlAudit.Xml.Fault

/-!
# References and entities

* `expand`: a text with its character and entity references replaced by what they stand for.
* `Entities`: the general entities declared so far, of which the first of a name counts.
* `Entities.declare`: the entities of a document type declaration added to a table.
-/

namespace XmlAudit.Xml

open Text (byteLength dropWord)

/-- The declared entities with their replacement texts, the first of a name first. -/
abbrev Entities := List (String × String)

/-- The five entities that need no declaration. -/
def predefined : List (String × Char) :=
  [("lt", '<'), ("gt", '>'), ("amp", '&'), ("apos", '\''), ("quot", '"')]

/-- The value of a digit in base ten or sixteen. -/
def digitValue? (base : Nat) (c : Char) : Option Nat :=
  if c.isDigit then some (c.toNat - '0'.toNat)
  else if base = 16 ∧ 'a' ≤ c ∧ c ≤ 'f' then some (c.toNat - 'a'.toNat + 10)
  else if base = 16 ∧ 'A' ≤ c ∧ c ≤ 'F' then some (c.toNat - 'A'.toNat + 10)
  else none

/-- The number that digits spell, or the first character that is not a digit. -/
def readDigits (base : Nat) : Nat → List Char → Except Char Nat
  | n, [] => .ok n
  | n, c :: cs =>
    match digitValue? base c with
    | some d => readDigits base (n * base + d) cs
    | none => .error c

/-- The code point of a numeric reference, given what stands between `&#` and `;`. -/
def codePoint : List Char → Except ReferenceFault Nat
  | 'x' :: digits =>
    if byteLength digits > 6 then .error .longHexadecimal
    else (readDigits 16 0 digits).mapError fun c => .hexadecimalDigit (Text.Utf8.firstByte c)
  | digits =>
    if byteLength digits > 7 then .error .longDecimal
    else (readDigits 10 0 digits).mapError fun c => .decimalDigit (Text.Utf8.firstByte c)

/-- The character of a code point; `first` and `last` delimit the reference. -/
def characterOf (first last n : Nat) : Except ReferenceFault Char :=
  if n = 0 then .error (.nullCharacter first last)
  else if h : n.isValidChar then .ok (Char.ofNatAux n h)
  else .error (.codePoint n)

/-- What the reference between offset `first` (its `&`) and `last` (its `;`) stands for. -/
def resolve (entities : Entities) (first last : Nat) (name : List Char) :
    Except ReferenceFault (List Char) :=
  match name with
  | '#' :: digits => do
    let n ← codePoint digits
    let c ← characterOf first last n
    return [c]
  | _ =>
    let word := String.ofList name
    match predefined.lookup word with
    | some c => .ok [c]
    | none =>
      match entities.lookup word with
      | some text => .ok text.toList
      | none => .error (.unknownEntity (first + 1) last word)

/-- Expands what is left of a text from offset `position` on. While a reference is being read,
`reading` holds the offset of its `&` and its characters so far, in reverse. -/
def expandFrom (entities : Entities) (size : Nat) :
    Nat → Option (Nat × List Char) → List Char → Except ReferenceFault (List Char)
  | _, none, [] => .ok []
  | _, some (first, _), [] => .error (.unterminated first size)
  | position, none, c :: cs =>
    if c = '&' then expandFrom entities size (position + 1) (some (position, [])) cs
    else do
      let rest ← expandFrom entities size (position + c.utf8Size) none cs
      return c :: rest
  | position, some (first, name), c :: cs =>
    if c = ';' then do
      let value ← resolve entities first position name.reverse
      let rest ← expandFrom entities size (position + 1) none cs
      return value ++ rest
    else if c = '&' then .error (.unterminated first size)
    else expandFrom entities size (position + c.utf8Size) (some (first, c :: name)) cs

/-- The text with every reference replaced by what it stands for. -/
def expand (entities : Entities) (text : List Char) : Except ReferenceFault (List Char) :=
  expandFrom entities (byteLength text) 0 none text

/-- The characters after one or more leading blanks. -/
def dropBlanks (cs : List Char) : Option (List Char) :=
  match cs with
  | c :: rest => if Text.isBlank c then some (rest.dropWhile Text.isBlank) else none
  | [] => none

/-- A character that the name of a declared entity may hold. -/
def isEntityNameChar (c : Char) : Bool :=
  !Text.isBlank c && c ≠ '%' && c ≠ '"' && c ≠ '\'' && c ≠ '>'

/-- The name and the value, as written, of the entity declaration with which a text starts, and
what follows it. -/
def entityDeclaration? (cs : List Char) : Option (String × List Char × List Char) := do
  let cs ← dropWord "<!ENTITY".toList cs
  let cs ← dropBlanks cs
  let name := cs.takeWhile isEntityNameChar
  guard !name.isEmpty
  let cs ← dropBlanks (cs.dropWhile isEntityNameChar)
  let (quote, cs) ← match cs with
    | c :: rest => if c = '"' ∨ c = '\'' then some (c, rest) else none
    | [] => none
  let value := cs.takeWhile (· ≠ quote)
  let cs ← dropWord [quote] (cs.dropWhile (· ≠ quote))
  let cs ← dropWord ['>'] (cs.dropWhile Text.isBlank)
  return (String.ofList name, value, cs)

/-- The entity declarations of a text, in order; `skip` characters are passed over first. -/
def entityDeclarations : Nat → List Char → List (String × List Char)
  | _, [] => []
  | n + 1, _ :: cs => entityDeclarations n cs
  | 0, c :: cs =>
    match entityDeclaration? (c :: cs) with
    | some (name, value, rest) =>
      (name, value) :: entityDeclarations (cs.length - rest.length) cs
    | none => entityDeclarations 0 cs

/-- A name declared before keeps its value; a new one gets its value with the references in it
expanded, or as written where that fails. -/
def Entities.add (entities : Entities) (declared : String × List Char) : Entities :=
  if (entities.lookup declared.1).isSome then entities
  else
    let value := match expand entities declared.2 with
      | .ok text => text
      | .error _ => declared.2
    entities ++ [(declared.1, String.ofList value)]

/-- The table after the declarations of a document type declaration. -/
def Entities.declare (entities : Entities) (doctype : List Char) : Entities :=
  (entityDeclarations 0 doctype).foldl Entities.add entities

end XmlAudit.Xml
