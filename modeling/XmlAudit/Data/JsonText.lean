import XmlAudit.Data.Basic
import XmlAudit.Text.Utf8

/-!
# Data as JSON text

* `Data.renderJson`: each item and each entry on a line of its own, indented by two spaces.
* `Data.parseJson?`: the data that a JSON text spells.
-/

namespace XmlAudit.Data

/-! ## Writing -/

/-- A hexadecimal digit. -/
def hexDigit (n : Nat) : Char := Nat.digitChar n

/-- A character inside a quoted text. -/
def jsonChar (c : Char) : List Char :=
  match c with
  | '"' => ['\\', '"']
  | '\\' => ['\\', '\\']
  | '\x08' => ['\\', 'b']
  | '\x0c' => ['\\', 'f']
  | '\n' => ['\\', 'n']
  | '\r' => ['\\', 'r']
  | '\t' => ['\\', 't']
  | c =>
    if c.toNat < 32 then ['\\', 'u', '0', '0', hexDigit (c.toNat / 16), hexDigit (c.toNat % 16)]
    else [c]

/-- A quoted text. -/
def jsonText (s : String) : List Char := '"' :: s.toList.flatMap jsonChar ++ ['"']

/-- A line break with the spaces of a depth. -/
def jsonBreak (depth : Nat) : List Char := '\n' :: List.replicate (2 * depth) ' '

mutual

/-- Data at a depth. -/
def renderJsonAt (depth : Nat) : Data → List Char
  | null => "null".toList
  | boolean b => (if b then "true" else "false").toList
  | integer n => (toString n).toList
  | literal s | overflow s => s.toList
  | text s => jsonText s
  | list [] => ['[', ']']
  | list (d :: ds) =>
    '[' :: jsonBreak (depth + 1) ++ renderJsonAt (depth + 1) d ++ renderItems (depth + 1) ds ++
      jsonBreak depth ++ [']']
  | table [] => ['\x7b', '\x7d']
  | table ((k, d) :: es) =>
    '\x7b' :: jsonBreak (depth + 1) ++ jsonText k ++ ':' :: ' ' :: renderJsonAt (depth + 1) d ++
      renderEntries (depth + 1) es ++ jsonBreak depth ++ ['\x7d']

/-- The items after the first one, each after a comma. -/
def renderItems (depth : Nat) : List Data → List Char
  | [] => []
  | d :: ds => ',' :: jsonBreak depth ++ renderJsonAt depth d ++ renderItems depth ds

/-- The entries after the first one, each after a comma. -/
def renderEntries (depth : Nat) : List (String × Data) → List Char
  | [] => []
  | (k, d) :: es =>
    ',' :: jsonBreak depth ++ jsonText k ++ ':' :: ' ' :: renderJsonAt depth d ++
      renderEntries depth es

end

/-- Data as JSON text. -/
def renderJson (d : Data) : String := String.ofList (renderJsonAt 0 d)

/-! ## Reading -/

/-- A blank between tokens. -/
def isJsonBlank (c : Char) : Bool := c = ' ' || c = '\n' || c = '\t' || c = '\r'

/-- The characters after blanks. -/
def skipBlanks (cs : List Char) : List Char := cs.dropWhile isJsonBlank

/-- The value of a hexadecimal digit. -/
def hexValue? (c : Char) : Option Nat :=
  if c.isDigit then some (c.toNat - 48)
  else if 'a' ≤ c ∧ c ≤ 'f' then some (c.toNat - 87)
  else if 'A' ≤ c ∧ c ≤ 'F' then some (c.toNat - 55)
  else none

/-- The value of four hexadecimal digits. -/
def hexUnit? (a b c d : Char) : Option Nat := do
  return (← hexValue? a) * 4096 + (← hexValue? b) * 256 + (← hexValue? c) * 16 + (← hexValue? d)

/-- The character of a one-letter escape. -/
def shortEscape? : Char → Option Char
  | '"' => some '"'
  | '\\' => some '\\'
  | '/' => some '/'
  | 'b' => some '\x08'
  | 'f' => some '\x0c'
  | 'n' => some '\n'
  | 'r' => some '\r'
  | 't' => some '\t'
  | _ => none

/-- A quoted text up to its closing quote, in code points and in units that stand in pairs, and what
follows. -/
def readUnits (acc : List Nat) : List Char → Option (List Nat × List Char)
  | '"' :: cs => some (acc.reverse, cs)
  | '\\' :: 'u' :: a :: b :: c :: d :: cs =>
    match hexUnit? a b c d with
    | some n => readUnits (n :: acc) cs
    | none => none
  | '\\' :: c :: cs =>
    match shortEscape? c with
    | some x => readUnits (x.toNat :: acc) cs
    | none => none
  | c :: cs => if c.toNat < 32 ∨ c = '\\' then none else readUnits (c.toNat :: acc) cs
  | [] => none

/-- Whether a unit is the first one of a pair. -/
def isHighUnit (n : Nat) : Bool := 0xD800 ≤ n && n < 0xDC00

/-- Whether a unit is the second one of a pair. -/
def isLowUnit (n : Nat) : Bool := 0xDC00 ≤ n && n < 0xE000

/-- The characters of code points and of pairs of units; none if a unit stands alone. -/
def joinUnits? : List Nat → Option (List Char)
  | high :: low :: ns =>
    if isHighUnit high && isLowUnit low then
      (joinUnits? ns).map
        (Char.ofNat (0x10000 + (high - 0xD800) * 0x400 + (low - 0xDC00)) :: ·)
    else if isHighUnit high || isLowUnit high then none
    else (joinUnits? (low :: ns)).map (Char.ofNat high :: ·)
  | [n] => if isHighUnit n || isLowUnit n then none else some [Char.ofNat n]
  | [] => some []

/-- A quoted text up to its closing quote, none if one of its units stands alone, and what follows.
-/
def readText (cs : List Char) : Option (Option String × List Char) :=
  (readUnits [] cs).map fun (units, rest) => ((joinUnits? units).map String.ofList, rest)

/-- The number of a run of digits. -/
def digitsValue (ds : List Char) : Nat := ds.foldl (fun n c => n * 10 + (c.toNat - 48)) 0

/-- Digits after a point, if there is one. -/
def readFraction (cs : List Char) : Option (List Char × List Char) :=
  match cs with
  | '.' :: rest =>
    let ds := rest.takeWhile Char.isDigit
    if ds.isEmpty then none else some ('.' :: ds, rest.dropWhile Char.isDigit)
  | _ => some ([], cs)

/-- An exponent, if there is one. -/
def readExponent (cs : List Char) : Option (List Char × List Char) :=
  match cs with
  | e :: rest =>
    if e = 'e' ∨ e = 'E' then
      let sign := rest.takeWhile fun c => c = '+' || c = '-'
      let digits := rest.drop sign.length
      let ds := digits.takeWhile Char.isDigit
      if ds.isEmpty ∨ sign.length > 1 then none
      else some (e :: sign ++ ds, digits.dropWhile Char.isDigit)
    else some ([], cs)
  | [] => some ([], [])

/-- A number without fraction, unless it is out of the range of 64 bits or a negative zero. -/
def integerOr (negative : Bool) (ds : List Char) : Data :=
  let n := digitsValue ds
  if negative then
    if 0 < n ∧ n ≤ Nat.pow 2 63 then integer (-n) else literal (String.ofList ('-' :: ds))
  else if n < UInt64.size then integer n
  else literal (String.ofList ds)

/-- A number, after its sign, and what follows. -/
def readNumber (negative : Bool) (cs : List Char) : Option (Data × List Char) := do
  let ds := cs.takeWhile Char.isDigit
  if ds.isEmpty ∨ (ds.length > 1 ∧ ds.head? = some '0') then none
  else
    let (fraction, cs) ← readFraction (cs.dropWhile Char.isDigit)
    let (exponent, cs) ← readExponent cs
    if fraction.isEmpty ∧ exponent.isEmpty then return (integerOr negative ds, cs)
    else
      let all := (if negative then ['-'] else []) ++ ds ++ fraction ++ exponent
      return (literal (String.ofList all), cs)

/-- A word at the start of a text. -/
def readWord (word : String) (d : Data) (cs : List Char) : Option (Data × List Char) :=
  if word.toList.isPrefixOf cs then some (d, cs.drop word.length) else none

/-- Data that is no list and no table. A text with a unit that stands alone is a literal. -/
def readScalar (cs : List Char) : Option (Data × List Char) :=
  match cs with
  | 'n' :: rest => readWord "ull" null rest
  | 't' :: rest => readWord "rue" (boolean true) rest
  | 'f' :: rest => readWord "alse" (boolean false) rest
  | '"' :: rest => (readText rest).map fun r => ((r.1.map text).getD (literal ""), r.2)
  | '-' :: rest => readNumber true rest
  | cs => readNumber false cs

/-- The key of an entry with the colon behind it, and what follows. -/
def readKey (cs : List Char) : Option (Option String × List Char) :=
  match skipBlanks cs with
  | '"' :: rest =>
    match readText rest with
    | some (key, rest) =>
      match skipBlanks rest with
      | ':' :: rest => some (key, rest)
      | _ => none
    | none => none
  | _ => none

/-- What follows data, given the brackets still to be closed; `behind` tells whether the next thing
is not data but what comes behind it, and `fuel` bounds the number of steps. -/
def skim : Nat → List Char → Bool → List Char → Option (List Char)
  | 0, _, _, _ => none
  | _ + 1, [], true, cs => some cs
  | fuel + 1, close :: outer, true, cs =>
    match skipBlanks cs with
    | [] => none
    | c :: rest =>
      if c = close then skim fuel outer true rest
      else if c ≠ ',' then none
      else if close = ']' then skim fuel (close :: outer) false rest
      else
        match readKey rest with
        | some (_, rest) => skim fuel (close :: outer) false rest
        | none => none
  | fuel + 1, opened, false, cs =>
    match skipBlanks cs with
    | '[' :: rest =>
      match skipBlanks rest with
      | ']' :: rest => skim fuel opened true rest
      | rest => skim fuel (']' :: opened) false rest
    | '\x7b' :: rest =>
      match skipBlanks rest with
      | '\x7d' :: rest => skim fuel opened true rest
      | rest =>
        match readKey rest with
        | some (_, rest) => skim fuel ('\x7d' :: opened) false rest
        | none => none
    | cs =>
      match readScalar cs with
      | some (_, rest) => skim fuel opened true rest
      | none => none

/-- The entries of a table; a table with a key in which a unit stands alone is a literal. -/
def tableOf (entries : List (Option String × Data)) : Data :=
  match entries.mapM fun e => e.1.map (·, e.2) with
  | some entries => table entries
  | none => literal ""

/-- Data at the start of a text that is read over and stands as a literal, and what follows. -/
def readOver (cs : List Char) : Option (Data × List Char) :=
  (skim (2 * cs.length + 1) [] false cs).map (literal "", ·)

mutual

/-- Data at the start of a text, and what follows. Lists and tables nested more than `depth` deep
are literals; `fuel` bounds the number of steps. -/
def readData (depth : Nat) : Nat → List Char → Option (Data × List Char)
  | 0, _ => none
  | fuel + 1, cs =>
    match skipBlanks cs with
    | '[' :: rest =>
      if depth = 0 then readOver ('[' :: rest)
      else
        match skipBlanks rest with
        | ']' :: rest => some (list [], rest)
        | rest => (readItems (depth - 1) fuel rest).map fun r => (list r.1, r.2)
    | '\x7b' :: rest =>
      if depth = 0 then readOver ('\x7b' :: rest)
      else
        match skipBlanks rest with
        | '\x7d' :: rest => some (table [], rest)
        | rest => (readEntries (depth - 1) fuel rest).map fun r => (tableOf r.1, r.2)
    | cs => readScalar cs

/-- The items of a list up to its bracket. -/
def readItems (depth : Nat) : Nat → List Char → Option (List Data × List Char)
  | 0, _ => none
  | fuel + 1, cs =>
    match readData depth fuel cs with
    | some (d, cs) =>
      match skipBlanks cs with
      | ']' :: rest => some ([d], rest)
      | ',' :: rest => (readItems depth fuel rest).map fun r => (d :: r.1, r.2)
      | _ => none
    | none => none

/-- The entries of a table up to its brace. -/
def readEntries (depth : Nat) : Nat → List Char → Option (List (Option String × Data) × List Char)
  | 0, _ => none
  | fuel + 1, cs =>
    match readKey cs with
    | some (key, rest) =>
      match readData depth fuel rest with
      | some (d, cs) =>
        match skipBlanks cs with
        | '\x7d' :: rest => some ([(key, d)], rest)
        | ',' :: rest => (readEntries depth fuel rest).map fun r => ((key, d) :: r.1, r.2)
        | _ => none
      | none => none
    | none => none

end

/-- How deep lists and tables are read. -/
def depthLimit : Nat := 127

/-- The data that a JSON text spells. Texts that are no sequence of characters and what is nested
too deep are literals, which no record uses. -/
def parseJson? (s : String) : Option Data :=
  match readData depthLimit (s.toList.length + 1) s.toList with
  | some (d, rest) => if (skipBlanks rest).isEmpty then some d else none
  | none => none

end XmlAudit.Data
