import XmlAudit.Data.TomlMoment
import XmlAudit.Data.TomlTable
import XmlAudit.Number.Decimal
import XmlAudit.Text.Replace

/-!
# Data as TOML text

* `Data.parseToml?`: the data that a TOML text spells.
* `Statement`: a header or an entry of such a text.
-/

namespace XmlAudit.Data.Toml

/-! ## Blanks and line ends -/

/-- A blank inside a line. -/
def isSpace (c : Char) : Bool := c = ' ' || c = '\t'

/-- The characters after blanks of the line. -/
def skipSpace (cs : List Char) : List Char := cs.dropWhile isSpace

/-- A character that comments and texts may hold. -/
def isPlain (c : Char) : Bool := c = '\t' || (c.toNat ≥ 32 && c.toNat ≠ 127)

/-- The characters after a comment, up to the end of the line. -/
def skipComment (cs : List Char) : List Char :=
  match cs with
  | '#' :: rest => rest.dropWhile isPlain
  | _ => cs

/-- The characters after a line end. -/
def skipLineEnd : List Char → Option (List Char)
  | '\n' :: cs => some cs
  | '\r' :: '\n' :: cs => some cs
  | [] => some []
  | _ => none

/-- The characters after blanks, comments and line ends; `inComment` tells that a comment goes on.
-/
def skipVoid (inComment : Bool) : List Char → List Char
  | [] => []
  | '\n' :: cs => skipVoid false cs
  | '\r' :: '\n' :: cs => skipVoid false cs
  | c :: cs =>
    if inComment then if isPlain c then skipVoid true cs else c :: cs
    else if isSpace c then skipVoid false cs
    else if c = '#' then skipVoid true cs
    else c :: cs

/-! ## Texts -/

/-- The value of a hexadecimal digit. -/
def hexValue? (c : Char) : Option Nat :=
  if c.isDigit then some (c.toNat - 48)
  else if 'a' ≤ c ∧ c ≤ 'f' then some (c.toNat - 87)
  else if 'A' ≤ c ∧ c ≤ 'F' then some (c.toNat - 55)
  else none

/-- The character of a number in hexadecimal digits. -/
def hexChar? (ds : List Char) : Option Char := do
  let n ← ds.foldlM (fun n c => (hexValue? c).map (n * 16 + ·)) 0
  if n < 0xD800 ∨ (0xE000 ≤ n ∧ n < 0x110000) then some (Char.ofNat n) else none

/-- The character of an escape, and how many characters after the backslash spell it. -/
def escape? : List Char → Option (Char × Nat)
  | 'b' :: _ => some ('\x08', 1)
  | 't' :: _ => some ('\t', 1)
  | 'n' :: _ => some ('\n', 1)
  | 'f' :: _ => some ('\x0c', 1)
  | 'r' :: _ => some ('\r', 1)
  | 'e' :: _ => some ('\x1b', 1)
  | '"' :: _ => some ('"', 1)
  | '\\' :: _ => some ('\\', 1)
  | 'x' :: cs => if cs.length < 2 then none else (hexChar? (cs.take 2)).map (·, 3)
  | 'u' :: cs => if cs.length < 4 then none else (hexChar? (cs.take 4)).map (·, 5)
  | 'U' :: cs => if cs.length < 8 then none else (hexChar? (cs.take 8)).map (·, 9)
  | _ => none

/-- Whether only blanks stand between a backslash and the end of its line. -/
def endsLine (cs : List Char) : Bool :=
  match skipSpace cs with
  | '\n' :: _ => true
  | '\r' :: '\n' :: _ => true
  | _ => false

/-- A text of several lines up to its three quotes, of which up to two more may stand before them.
`skip` characters are taken already, and `joining` tells that blanks after a backslash are passed
over. -/
def readLines (quote : Char) (acc : List Char) (joining : Bool) :
    Nat → List Char → Option (String × List Char)
  | _, [] => none
  | skip + 1, _ :: cs => readLines quote acc joining skip cs
  | 0, c :: cs =>
    if joining && (isSpace c || c = '\n' || (c = '\r' && cs.head? = some '\n')) then
      readLines quote acc true 0 cs
    else if c = quote ∧ cs.take 2 = [quote, quote] then
      let more := (cs.drop 2).takeWhile (· = quote)
      if more.length > 2 then none
      else some (String.ofList (acc.reverse ++ more), cs.drop (2 + more.length))
    else if c = '\\' ∧ quote = '"' then
      if endsLine cs then readLines quote acc true 0 cs
      else
        match escape? cs with
        | some (x, n) => readLines quote (x :: acc) false n cs
        | none => none
    else if c = '\r' ∧ cs.head? = some '\n' then readLines quote ('\n' :: acc) false 1 cs
    else if isPlain c || c = '\n' then readLines quote (c :: acc) false 0 cs
    else none

/-- A text of one line up to its quote; `skip` characters are taken already. -/
def readLine (quote : Char) (acc : List Char) : Nat → List Char → Option (String × List Char)
  | _, [] => none
  | skip + 1, _ :: cs => readLine quote acc skip cs
  | 0, c :: cs =>
    if c = quote then some (String.ofList acc.reverse, cs)
    else if c = '\\' ∧ quote = '"' then
      match escape? cs with
      | some (x, n) => readLine quote (x :: acc) n cs
      | none => none
    else if isPlain c then readLine quote (c :: acc) 0 cs
    else none

/-- A text whose opening quote is taken: one of three quotes may span lines, and a line end right
after these does not count. -/
def readText (quote : Char) (cs : List Char) : Option (String × List Char) :=
  if cs.take 2 = [quote, quote] then
    match cs.drop 2 with
    | '\n' :: rest => readLines quote [] false 0 rest
    | '\r' :: '\n' :: rest => readLines quote [] false 0 rest
    | rest => readLines quote [] false 0 rest
  else readLine quote [] 0 cs

/-! ## Keys -/

/-- A character of a key without quotes. -/
def isKeyChar (c : Char) : Bool := c.isAlphanum || c = '_' || c = '-'

/-- A key without dots. -/
def readKey (cs : List Char) : Option (String × List Char) :=
  match cs with
  | '"' :: rest => readLine '"' [] 0 rest
  | '\'' :: rest => readLine '\'' [] 0 rest
  | _ =>
    let key := cs.takeWhile isKeyChar
    if key.isEmpty then none else some (String.ofList key, cs.dropWhile isKeyChar)

/-- The most parts of a key. -/
def partLimit : Nat := 81

/-- A key with dots, and what follows it after blanks; it has at most so many parts. -/
def readKeys : Nat → List Char → Option (List String × List Char)
  | 0, _ => none
  | fuel + 1, cs =>
    match readKey (skipSpace cs) with
    | some (key, rest) =>
      match skipSpace rest with
      | '.' :: rest => (readKeys fuel rest).map fun r => (key :: r.1, r.2)
      | rest => some ([key], rest)
    | none => none

/-! ## Numbers, dates and words -/

/-- A run of digits in which single underscores stand between two digits. -/
def isGrouped (isDigit : Char → Bool) (ds : List Char) : Bool :=
  (Text.splitFrom '_' [] ds).all fun part => !part.isEmpty && part.all isDigit

/-- The number of digits in a base. -/
def numberIn (base : Nat) (ds : List Char) : Nat :=
  (ds.filterMap hexValue?).foldl (fun n v => n * base + v) 0

/-- Digits of a decimal number: none of several starts it as a zero. -/
def isDecimal (ds : List Char) : Bool :=
  isGrouped Char.isDigit ds && (ds.length = 1 || ds.head? ≠ some '0')

/-- The integer that a word spells after its sign. -/
def integer? (signed : Bool) (word : List Char) : Option Nat :=
  match word with
  | '0' :: 'x' :: ds =>
    if !signed && isGrouped (fun c => (hexValue? c).isSome) ds then some (numberIn 16 ds) else none
  | '0' :: 'o' :: ds =>
    if !signed && isGrouped (fun c => '0' ≤ c ∧ c ≤ '7') ds then some (numberIn 8 ds) else none
  | '0' :: 'b' :: ds =>
    if !signed && isGrouped (fun c => c = '0' || c = '1') ds then some (numberIn 2 ds) else none
  | ds => if isDecimal ds then some (numberIn 10 ds) else none

/-- Whether a word spells an exponent. -/
def isExponent (word : List Char) : Bool :=
  match word with
  | '+' :: ds | '-' :: ds | ds => isGrouped Char.isDigit ds

/-- Whether a word spells a number with a fraction or an exponent, after its sign. -/
def isFloat (word : List Char) : Bool :=
  let number := word.takeWhile fun c => !(c = 'e' || c = 'E')
  let whole := number.takeWhile (· ≠ '.')
  let exponent := word.drop number.length
  let fraction := number.drop whole.length
  isDecimal whole && (fraction.isEmpty || isGrouped Char.isDigit (fraction.drop 1)) &&
    (exponent.isEmpty || isExponent (exponent.drop 1)) || word = "inf".toList || word = "nan".toList

/-- Whether digits times a power of ten are too large for a double: nearer to `2 ^ 1024` than to the
largest one. -/
def isBeyondDoubles (digits : List Char) (exponent : Int) : Bool :=
  let significant := digits.dropWhile (· = '0')
  let places := exponent + significant.length
  if significant.isEmpty || places < 309 then false
  else if places > 309 then true
  else
    Number.Decimal.ofDigits significant * Nat.pow 10 exponent.toNat ≥
      (Nat.pow 2 1024 - Nat.pow 2 970) * Nat.pow 10 (-exponent).toNat

/-- The power of ten that an exponent spells. -/
def exponentValue (word : List Char) : Int :=
  let n : Nat := numberIn 10 word
  if word.contains '-' then -n else n

/-- Whether a number with a fraction or an exponent is too large for a double. -/
def isTooLarge (word : List Char) : Bool :=
  let word := word.filter (· ≠ '_')
  let number := word.takeWhile fun c => !(c = 'e' || c = 'E')
  let fraction := (number.dropWhile (· ≠ '.')).drop 1
  isBeyondDoubles (number.takeWhile (· ≠ '.') ++ fraction)
    (exponentValue (word.drop (number.length + 1)) - fraction.length)

/-- An integer of at most 128 bits. -/
def isWithinWords (n : Int) : Bool := -(Nat.pow 2 127 : Nat) ≤ n && n < (Nat.pow 2 128 : Nat)

/-- A character of a number, a moment or a word. -/
def isWordChar (c : Char) : Bool := c.isAlphanum || ['_', '+', '-', '.', ':'].contains c

/-- The number that a word spells. -/
def number? (word : List Char) : Option Data :=
  let signed := word.head? = some '+' || word.head? = some '-'
  let digits := if signed then word.drop 1 else word
  match integer? signed digits with
  | some n =>
    let n : Int := if word.head? = some '-' then -n else n
    some (if isWithinWords n then .integer n else .overflow (String.ofList word))
  | none =>
    if isFloat digits then
      let spelled := String.ofList word
      some (if isTooLarge digits then .overflow spelled else .literal spelled)
    else none

/-- The value that a word spells. -/
def wordValue? (word : List Char) : Option Data :=
  if word = "true".toList then some (.boolean true)
  else if word = "false".toList then some (.boolean false)
  else ((Moment.parse? word).map Moment.toData).or (number? word)

/-- The value that a word spells, and what follows it; a blank may part a day from a time. -/
def readWord (cs : List Char) : Option (Data × List Char) :=
  let word := cs.takeWhile isWordChar
  let rest := cs.dropWhile isWordChar
  let (word, rest) :=
    match rest with
    | ' ' :: c :: more =>
      if Moment.isDay word && isWordChar c then
        (word ++ ' ' :: (c :: more).takeWhile isWordChar, (c :: more).dropWhile isWordChar)
      else (word, rest)
    | _ => (word, rest)
  (wordValue? word).map (·, rest)

/-! ## Values -/

/-- How deep lists and tables in braces may be nested. -/
def nestLimit : Nat := 80

mutual

/-- A value, and what follows it. Lists and tables are nested at most `depth` deep; `fuel` bounds
the number of steps. -/
def readValue (depth : Nat) : Nat → List Char → Option (Data × List Char)
  | 0, _ => none
  | fuel + 1, cs =>
    match cs with
    | '"' :: rest => (readText '"' rest).map fun r => (.text r.1, r.2)
    | '\'' :: rest => (readText '\'' rest).map fun r => (.text r.1, r.2)
    | '[' :: rest =>
      if depth = 0 then none
      else (readItems (depth - 1) fuel (skipVoid false rest)).map fun r => (.list r.1, r.2)
    | '\x7b' :: rest =>
      if depth = 0 then none
      else
        (readPairs (depth - 1) fuel .empty (skipVoid false rest)).map fun r => (r.1.toData, r.2)
    | _ => readWord cs

/-- The items of a list up to its bracket. -/
def readItems (depth : Nat) : Nat → List Char → Option (List Data × List Char)
  | 0, _ => none
  | fuel + 1, cs =>
    match cs with
    | ']' :: rest => some ([], rest)
    | _ =>
      match readValue depth fuel cs with
      | some (d, rest) =>
        match skipVoid false rest with
        | ']' :: rest => some ([d], rest)
        | ',' :: rest => (readItems depth fuel (skipVoid false rest)).map fun r => (d :: r.1, r.2)
        | _ => none
      | none => none

/-- The entries of a table up to its brace, added to those before. -/
def readPairs (depth : Nat) : Nat → Draft → List Char → Option (Draft × List Char)
  | 0, _, _ => none
  | fuel + 1, draft, cs =>
    match cs with
    | '\x7d' :: rest => some (draft, rest)
    | _ =>
      match readPair depth fuel draft cs with
      | some (draft, rest) =>
        match skipVoid false rest with
        | '\x7d' :: rest => some (draft, rest)
        | ',' :: rest => readPairs depth fuel draft (skipVoid false rest)
        | _ => none
      | none => none

/-- One entry of a table in braces, added to those before. -/
def readPair (depth : Nat) : Nat → Draft → List Char → Option (Draft × List Char)
  | 0, _, _ => none
  | fuel + 1, draft, cs =>
    match readKeys partLimit cs with
    | some (keys, rest) =>
      match skipVoid false rest with
      | '=' :: rest =>
        match readValue depth fuel (skipVoid false rest) with
        | some (d, rest) => (draft.insert? [] keys d).map (·, rest)
        | none => none
      | _ => none
    | none => none

end

/-! ## Statements -/

/-- A header or an entry. -/
inductive Statement where
  | table (path : List String)
  | item (path : List String)
  | entry (keys : List String) (value : Data)

/-- The statement at the start of a text, and what follows it on the line. -/
def readStatement (cs : List Char) : Option (Statement × List Char) :=
  match cs with
  | '[' :: '[' :: rest =>
    match readKeys partLimit rest with
    | some (path, ']' :: ']' :: rest) => some (.item path, rest)
    | _ => none
  | '[' :: rest =>
    match readKeys partLimit rest with
    | some (path, ']' :: rest) => some (.table path, rest)
    | _ => none
  | _ =>
    match readKeys partLimit cs with
    | some (keys, '=' :: rest) =>
      (readValue nestLimit (3 * cs.length + 3) (skipSpace rest)).map fun r => (.entry keys r.1, r.2)
    | _ => none

/-- The statements of a text, of which there are at most `fuel`. -/
def readStatements : Nat → List Char → Option (List Statement)
  | 0, _ => none
  | fuel + 1, cs =>
    match skipVoid false cs with
    | [] => some []
    | cs =>
      match readStatement cs with
      | some (s, rest) =>
        match skipLineEnd (skipComment (skipSpace rest)) with
        | some rest => (readStatements fuel rest).map (s :: ·)
        | none => none
      | none => none

/-- What a statement adds to the tables, with the path of the table that is open after it. -/
def step? (state : Draft × List String) : Statement → Option (Draft × List String)
  | .table path => (state.1.openTable? path).map (·, path)
  | .item path => (state.1.openItem? path).map (·, path)
  | .entry keys v => (state.1.insert? state.2 keys v).map (·, state.2)

end XmlAudit.Data.Toml

namespace XmlAudit.Data

/-- The data that a TOML text spells. -/
def parseToml? (s : String) : Option Data := do
  let cs := s.toList
  let cs := if cs.head? = some '\ufeff' then cs.drop 1 else cs
  let statements ← Toml.readStatements (cs.length + 1) cs
  let (draft, _) ← statements.foldlM Toml.step? (Draft.empty, [])
  return draft.toData

end XmlAudit.Data
