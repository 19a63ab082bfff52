import XmlAudit.Regex.Syntax
import XmlAudit.Text.Letters

/-!
# Reading patterns

* `Pattern.read?`: the pattern that a text spells, none if it is not valid.
* `nestLimit`: how deep the parts of a pattern may be nested.

There are no back references and no look-around. Where blanks are skipped, they are skipped between
any two characters of an escape or a count too.
-/

namespace XmlAudit.Regex

/-- How deep the parts of a pattern may be nested. -/
def nestLimit : Nat := 250

/-- The pattern from the next significant character on; `comment` tells whether a comment is being
skipped. -/
def skipFrom (comment : Bool) : List Char → List Char
  | [] => []
  | c :: cs =>
    if comment then skipFrom (c ≠ '\n') cs
    else if Text.isBlank c then skipFrom false cs
    else if c = '#' then skipFrom true cs
    else c :: cs

/-- The pattern without leading blanks and comments, where these are to be skipped. -/
def skip (verbose : Bool) (cs : List Char) : List Char := if verbose then skipFrom false cs else cs

/-- The significant characters before a closing brace, and the pattern behind it. -/
def untilBrace? (verbose comment : Bool) : List Char → Option (List Char × List Char)
  | [] => none
  | c :: cs =>
    if comment then untilBrace? verbose (c ≠ '\n') cs
    else if verbose && Text.isBlank c then untilBrace? verbose false cs
    else if verbose && c = '#' then untilBrace? verbose true cs
    else if c = '\x7d' then some ([], cs)
    else (untilBrace? verbose false cs).map fun (name, rest) => (c :: name, rest)

/-- The digits at the start, and the pattern behind them from a significant character on. -/
def takeDigits (verbose comment : Bool) : List Char → List Char × List Char
  | [] => ([], [])
  | c :: cs =>
    if comment then takeDigits verbose (c ≠ '\n') cs
    else if c.isDigit then
      let (digits, rest) := takeDigits verbose false cs
      (c :: digits, rest)
    else if verbose && Text.isBlank c then takeDigits verbose false cs
    else if verbose && c = '#' then takeDigits verbose true cs
    else ([], c :: cs)

/-- The characters before the first `stop`, and those behind it. -/
def splitAtChar? (stop : Char) (cs : List Char) : Option (List Char × List Char) :=
  match cs.dropWhile (· ≠ stop) with
  | _ :: rest => some (cs.takeWhile (· ≠ stop), rest)
  | [] => none

/-! ## Escapes -/

/-- What a backslash and the characters behind it stand for. -/
inductive Escaped where
  | literal (l : Literal)
  | named (negated : Bool) (query : ClassQuery)
  | letter (negated : Bool) (kind : LetterClass)
  | mark (m : Mark)

/-- An escape as a part of a pattern. -/
def Escaped.toPattern : Escaped → Pattern
  | literal l => .literal l
  | named negated q => .named negated q
  | letter negated k => .letter negated k
  | mark m => .mark m

/-- An escape as a member of a set; marks are none. -/
def Escaped.toSet? : Escaped → Option ClassSet
  | literal l => some (.literal l)
  | named negated q => some (.named negated q)
  | letter negated k => some (.letter negated k)
  | mark _ => none

/-- The ASCII characters that stand for themselves behind a backslash: all but letters, digits and
angle brackets. -/
def isEscapable (c : Char) : Bool := c.toNat < 128 && !c.isAlphanum && c != '<' && c != '>'

/-- The value of a hexadecimal digit. -/
def hexValue? (c : Char) : Option Nat :=
  if c.isDigit then some (c.toNat - 48)
  else if 'a' ≤ c ∧ c ≤ 'f' then some (c.toNat - 87)
  else if 'A' ≤ c ∧ c ≤ 'F' then some (c.toNat - 55)
  else none

/-- The character whose code point digits spell. -/
def hexChar? (digits : List Char) : Option Char := do
  let values ← digits.mapM hexValue?
  let n := values.foldl (fun n d => n * 16 + d) 0
  if !digits.isEmpty && n.isValidChar then some (Char.ofNat n) else none

/-- A number of significant characters. -/
def takeSignificant? (verbose : Bool) : Nat → List Char → Option (List Char × List Char)
  | 0, cs => some ([], cs)
  | n + 1, c :: cs =>
    (takeSignificant? verbose n (skip verbose cs)).map fun (taken, rest) => (c :: taken, rest)
  | _ + 1, [] => none

/-- A character given by a fixed number of digits, or by any number in braces. Two digits without
braces spell a byte. -/
def hexEscape? (verbose : Bool) (count : Nat) (cs : List Char) : Option (Escaped × List Char) :=
  match skip verbose cs with
  | '\x7b' :: rest => do
    let (digits, rest) ← untilBrace? verbose false rest
    return (.literal ⟨← hexChar? digits, false⟩, rest)
  | cs => do
    let (digits, rest) ← takeSignificant? verbose count cs
    return (.literal ⟨← hexChar? digits, count = 2⟩, rest)

/-- What stands before and behind the first `!=`. -/
def splitAtUnequal? : List Char → Option (List Char × List Char)
  | '!' :: '=' :: rest => some ([], rest)
  | c :: cs => (splitAtUnequal? cs).map fun (before, rest) => (c :: before, rest)
  | [] => none

/-- What the name in the braces of a class asks for, and whether the class is excluded. -/
def braceQuery (name : List Char) : ClassQuery × Bool :=
  let value (p : List Char × List Char) : ClassQuery :=
    .value (String.ofList p.1) (String.ofList p.2)
  match splitAtUnequal? name with
  | some p => (value p, true)
  | none =>
    match splitAtChar? ':' name, splitAtChar? '=' name with
    | some p, _ | none, some p => (value p, false)
    | none, none => (.name (String.ofList name), false)

/-- A named class, given what follows its letter. -/
def namedEscape? (verbose negated : Bool) (cs : List Char) : Option (Escaped × List Char) :=
  match skip verbose cs with
  | '\x7b' :: rest => do
    let (name, rest) ← untilBrace? verbose false rest
    let (query, excluded) := braceQuery name
    return (.named (negated != excluded) query, rest)
  | c :: rest => if c = '\\' then none else some (.named negated (.name (String.singleton c)), rest)
  | [] => none

/-- A word boundary, given what follows its letter: braces with a letter or a hyphen in them name a
special one. -/
def boundary? (verbose : Bool) (cs : List Char) : Option (Escaped × List Char) :=
  match cs with
  | '\x7b' :: rest =>
    match skip verbose rest with
    | [] => none
    | c :: _ =>
      if c.isAlpha || c == '-' then do
        let (name, rest) ← untilBrace? verbose false rest
        match String.ofList name with
        | "start" => return (.mark (.word .start), rest)
        | "end" => return (.mark (.word .finish), rest)
        | "start-half" => return (.mark (.word .startHalf), rest)
        | "end-half" => return (.mark (.word .finishHalf), rest)
        | _ => none
      else some (.mark (.word .boundary), cs)
  | _ => some (.mark (.word .boundary), cs)

/-- What follows a backslash. -/
def escape? (verbose : Bool) (cs : List Char) : Option (Escaped × List Char) :=
  let char (c : Char) : Escaped := .literal ⟨c, false⟩
  match cs with
  | [] => none
  | c :: rest =>
    match c with
    | 'x' => hexEscape? verbose 2 rest
    | 'u' => hexEscape? verbose 4 rest
    | 'U' => hexEscape? verbose 8 rest
    | 'p' => namedEscape? verbose false rest
    | 'P' => namedEscape? verbose true rest
    | 'd' | 'D' => some (.letter c.isUpper .digit, rest)
    | 's' | 'S' => some (.letter c.isUpper .blank, rest)
    | 'w' | 'W' => some (.letter c.isUpper .word, rest)
    | 'a' => some (char '\x07', rest)
    | 'f' => some (char '\x0c', rest)
    | 't' => some (char '\t', rest)
    | 'n' => some (char '\n', rest)
    | 'r' => some (char '\r', rest)
    | 'v' => some (char '\x0b', rest)
    | 'A' => some (.mark .textStart, rest)
    | 'z' => some (.mark .textEnd, rest)
    | 'b' => boundary? verbose rest
    | 'B' => some (.mark (.word .noBoundary), rest)
    | '<' => some (.mark (.word .start), rest)
    | '>' => some (.mark (.word .finish), rest)
    | _ => if isEscapable c then some (char c, rest) else none

/-! ## Sets in brackets -/

/-- The items read so far, the last first, as the right side of the operator before them. -/
def closeOperator (pending : Option (SetOperator × ClassSet)) (items : List ClassSet) : ClassSet :=
  match pending with
  | some (op, left) => .op op left (.ofItems items.reverse)
  | none => .ofItems items.reverse

/-- The class of ASCII characters with which the inside of brackets goes on, given what follows
`[:`. -/
def posixClass? (cs : List Char) : Option (ClassSet × List Char) := do
  let (negated, cs) := match cs with
    | '^' :: rest => (true, rest)
    | _ => (false, cs)
  let (name, rest) ← splitAtChar? ':' cs
  let set ← asciiClass? (String.ofList name)
  match rest with
  | ']' :: rest => return (.ascii negated set, rest)
  | _ => none

/-- One item of a set: a character, or what a backslash introduces. -/
def setItem? (verbose : Bool) (cs : List Char) : Option (Escaped × List Char) :=
  match cs with
  | '\\' :: rest => escape? verbose rest
  | c :: rest => some (.literal ⟨c, false⟩, rest)
  | [] => none

/-- The next character that is neither a blank nor the sign that opens a comment. -/
def peekFrom (comment : Bool) : List Char → Option Char
  | [] => none
  | c :: cs =>
    if Text.isBlank c then peekFrom comment cs
    else if !comment && c = '#' then peekFrom true cs
    else some c

/-- The character that decides whether the hyphen before it makes a range. -/
def peekBehind (verbose : Bool) (cs : List Char) : Option Char :=
  if verbose then (peekFrom false cs).orElse fun _ => cs.head? else cs.head?

/-- One item or a range between two characters. -/
def setRange? (verbose : Bool) (cs : List Char) : Option (ClassSet × List Char) := do
  let (first, rest) ← setItem? verbose cs
  match skip verbose rest with
  | [] => none
  | '-' :: behind =>
    let next := peekBehind verbose behind
    if next = some ']' ∨ next = some '-' then return (← first.toSet?, '-' :: behind)
    else
      let (last, rest) ← setItem? verbose (skip verbose behind)
      match first, last with
      | .literal a, .literal b =>
        guard (a.char ≤ b.char)
        return (.range a b, rest)
      | _, _ => none
  | rest => return (← first.toSet?, rest)

/-- A character as an item of a set. -/
def itemOf (c : Char) : ClassSet := .literal ⟨c, false⟩

/-- The hyphens at the start of a set, and the bracket that is a character there if none precede,
the last first; `fuel` bounds the number of hyphens. -/
def leadingItems (verbose : Bool) : Nat → List ClassSet → List Char → List ClassSet × List Char
  | fuel + 1, items, '-' :: cs => leadingItems verbose fuel (itemOf '-' :: items) (skip verbose cs)
  | _, [], ']' :: cs => ([itemOf ']'], skip verbose cs)
  | _, items, cs => (items, cs)

/-- The items of a set up to its closing bracket. `inner` reads a set whose opening bracket has just
been read; `fuel` bounds the number of items. -/
def readItems (verbose : Bool) (inner : List Char → Option (ClassSet × List Char)) :
    Nat → Option (SetOperator × ClassSet) → List ClassSet → List Char →
    Option (ClassSet × List Char)
  | 0, _, _, _ => none
  | fuel + 1, pending, items, cs =>
    match skip verbose cs with
    | [] => none
    | ']' :: rest => some (closeOperator pending items, rest)
    | '[' :: rest =>
      let posix := match rest with
        | ':' :: name => posixClass? name
        | _ => none
      match posix with
      | some (s, rest) => readItems verbose inner fuel pending (s :: items) rest
      | none => do
        let (s, rest) ← inner rest
        readItems verbose inner fuel pending (s :: items) rest
    | '&' :: '&' :: rest =>
      readItems verbose inner fuel (some (.inter, closeOperator pending items)) [] rest
    | '-' :: '-' :: rest =>
      readItems verbose inner fuel (some (.diff, closeOperator pending items)) [] rest
    | '~' :: '~' :: rest =>
      readItems verbose inner fuel (some (.symmetricDiff, closeOperator pending items)) [] rest
    | next => do
      let (s, rest) ← setRange? verbose next
      readItems verbose inner fuel pending (s :: items) rest

/-- The set whose opening bracket has just been read, as `(negated, inside)`; `room` bounds the
depth of sets in it. -/
def readBracketed (verbose : Bool) : Nat → List Char → Option ((Bool × ClassSet) × List Char)
  | 0, _ => none
  | room + 1, cs => do
    let (negated, cs) := match skip verbose cs with
      | '^' :: rest => (true, skip verbose rest)
      | other => (false, other)
    let (items, cs) := leadingItems verbose cs.length [] cs
    let inner (rest : List Char) : Option (ClassSet × List Char) := do
      let ((negated, inside), rest) ← readBracketed verbose room rest
      return (.bracketed negated inside, rest)
    let (s, rest) ← readItems verbose inner (cs.length + 1) none items cs
    return ((negated, s), rest)

/-! ## Repetitions -/

/-- The number that digits with blanks around them spell; it must fit in 32 bits. -/
def readCount? (verbose : Bool) (cs : List Char) : Option (Nat × List Char) := do
  let (digits, rest) := takeDigits verbose false (cs.dropWhile Text.isBlank)
  guard ((cs.dropWhile Text.isBlank).head?.any Char.isDigit)
  let n : Nat := digits.foldl (fun n c => n * 10 + (c.toNat - 48)) 0
  guard (n < UInt32.size)
  return (n, rest.dropWhile Text.isBlank)

/-- The bounds of a counted repetition, given what follows its opening brace. -/
def readBounds? (verbose : Bool) (cs : List Char) : Option (Nat × Option Nat × List Char) := do
  let (least, rest) ← readCount? verbose (skip verbose cs)
  match rest with
  | '\x7d' :: rest => return (least, some least, rest)
  | ',' :: rest =>
    match skip verbose rest with
    | '\x7d' :: rest => return (least, none, rest)
    | rest =>
      let (most, rest) ← readCount? verbose rest
      match rest with
      | '\x7d' :: rest =>
        guard (least ≤ most)
        return (least, some most, rest)
      | _ => none
  | _ => none

/-- The pattern behind the question mark that makes a repetition prefer few matches. -/
def dropLazy : List Char → List Char
  | '?' :: rest => rest
  | cs => cs

/-- The items with the last one repeated, the last first. A switch of flags cannot be repeated. -/
def repeatLast? (least : Nat) (most : Option Nat) : List Pattern → Option (List Pattern)
  | [] | .flags _ :: _ => none
  | p :: items => do
    let p := Pattern.repeated p least most
    guard (p.depth ≤ nestLimit)
    return p :: items

/-! ## Groups -/

/-- The flag of a letter. -/
def Flag.ofLetter? (c : Char) : Option Flag :=
  match c with
  | 'i' => some anyCase
  | 'm' => some multiLine
  | 's' => some dotAll
  | 'U' => some lazy
  | 'R' => some crlf
  | 'u' => some chars
  | 'x' => some verbose
  | _ => none

/-- The flags up to a colon or a closing parenthesis, which comes back with what follows it. Letters
behind a hyphen switch off, and neither a letter nor the hyphen may come twice. -/
def readFlags? (seen : List Char) : List Char → Option (FlagChange × List Char)
  | [] => none
  | c :: cs =>
    if c = ':' ∨ c = ')' then if seen.head? = some '-' then none else some ([], c :: cs)
    else if seen.contains c then none
    else if c = '-' then readFlags? (c :: seen) cs
    else do
      let flag ← Flag.ofLetter? c
      let (change, rest) ← readFlags? (c :: seen) cs
      return ((flag, !seen.contains '-') :: change, rest)

/-- The name of a group, given what follows its opening angle bracket. -/
def readGroupName? (cs : List Char) : Option (String × List Char) := do
  let (name, rest) ← splitAtChar? '>' cs
  match name with
  | [] => none
  | first :: others =>
    guard (first = '_' || Text.isLetter first)
    guard (others.all fun c =>
      c = '_' || c = '.' || c = '[' || c = ']' || Text.isAlphanumeric c)
    return (String.ofList name, rest)

/-- Whether a group starts that looks ahead or behind. -/
def isLookAround : List Char → Bool
  | '?' :: '=' :: _ | '?' :: '!' :: _ | '?' :: '<' :: '=' :: _ | '?' :: '<' :: '!' :: _ => true
  | _ => false

/-- How a group starts. -/
inductive GroupStart where
  | capture (name : Option String)
  | group (change : FlagChange)
  /-- Flags for the rest of the group around them. -/
  | switch (change : FlagChange)

/-- The start of a group, given what follows its opening parenthesis. -/
def readGroupStart? (verbose : Bool) (cs : List Char) : Option (GroupStart × List Char) :=
  let cs := skip verbose cs
  if isLookAround cs then none
  else
    match cs with
    | '?' :: 'P' :: '<' :: rest => (readGroupName? rest).map fun (n, r) => (.capture (some n), r)
    | '?' :: '<' :: rest => (readGroupName? rest).map fun (n, r) => (.capture (some n), r)
    | '?' :: ')' :: _ => none
    | '?' :: rest =>
      match readFlags? [] rest with
      | some (change, ':' :: rest) => some (.group change, rest)
      | some (change, _ :: rest) => some (.switch change, rest)
      | _ => none
    | _ => some (.capture none, cs)

/-- What has been read of a group: the names of groups in use, the alternatives and the items behind
them, the last first, and the pattern that is left. -/
structure GroupState where
  names : List String
  before : List Pattern
  items : List Pattern
  rest : List Char

/-- The group as one pattern. -/
def GroupState.pattern (st : GroupState) : Pattern :=
  .ofAlternatives (st.before.reverse ++ [.ofSequence st.items.reverse])

/-- Whether blanks are skipped after a change of flags. -/
def verboseAfter (verbose : Bool) (change : FlagChange) : Bool :=
  (change.lookup .verbose).getD verbose

/-- Reads a group up to its closing parenthesis or the end of the pattern. `inner` reads a group
within it; `fuel` bounds the number of items. -/
def readGroup (inner : Bool → GroupState → Option GroupState) :
    Nat → Bool → GroupState → Option GroupState
  | 0, _, _ => none
  | fuel + 1, verbose, st =>
    let push (p : Pattern) (rest : List Char) : Option GroupState :=
      readGroup inner fuel verbose { st with items := p :: st.items, rest }
    let again (least : Nat) (most : Option Nat) (rest : List Char) : Option GroupState := do
      let items ← repeatLast? least most st.items
      readGroup inner fuel verbose { st with items, rest }
    match skip verbose st.rest with
    | [] => some { st with rest := [] }
    -- the parenthesis is left for what reads the group around
    | ')' :: rest => some { st with rest := ')' :: rest }
    | '|' :: rest =>
      let before := .ofSequence st.items.reverse :: st.before
      readGroup inner fuel verbose { st with before, items := [], rest }
    | '*' :: rest => again 0 none (dropLazy rest)
    | '+' :: rest => again 1 none (dropLazy rest)
    | '?' :: rest => again 0 (some 1) (dropLazy rest)
    | '\x7b' :: rest => do
      let (least, most, rest) ← readBounds? verbose rest
      again least most (dropLazy (skip verbose rest))
    | '[' :: rest => do
      let ((negated, s), rest) ← readBracketed verbose nestLimit rest
      push (.bracketed negated s) rest
    | '\\' :: rest => do
      let (e, rest) ← escape? verbose rest
      push e.toPattern rest
    | '(' :: rest => do
      let (start, rest) ← readGroupStart? verbose rest
      let nested (verbose : Bool) (name : Option String) : Option GroupState := do
        let read ← inner verbose ⟨name.toList ++ st.names, [], [], rest⟩
        guard (read.rest.head? = some ')')
        return read
      match start with
      -- flags hold up to the end of the group in which they are switched
      | .switch change =>
        readGroup inner fuel (verboseAfter verbose change)
          { st with items := .flags change :: st.items, rest }
      | .group change =>
        let read ← nested (verboseAfter verbose change) none
        readGroup inner fuel verbose
          { st with
            names := read.names, items := .group change read.pattern :: st.items,
            rest := read.rest.drop 1 }
      | .capture name =>
        -- a name is used once in the whole pattern
        guard !(name.map st.names.contains).getD false
        let read ← nested verbose name
        readGroup inner fuel verbose
          { st with
            names := read.names, items := .capture read.pattern :: st.items,
            rest := read.rest.drop 1 }
    | '.' :: rest => push .dot rest
    | '^' :: rest => push (.mark .lineStart) rest
    | '$' :: rest => push (.mark .lineEnd) rest
    | c :: rest => push (.literal ⟨c, false⟩) rest

/-- Reads a group with groups in it down to a depth. -/
def readNested : Nat → Bool → GroupState → Option GroupState
  | 0, _, _ => none
  | room + 1, verbose, st => readGroup (readNested room) (st.rest.length + 1) verbose st

/-- **Reading a pattern**; `verbose` tells whether blanks and comments are skipped from the start.
-/
def Pattern.read? (verbose : Bool) (text : String) : Option Pattern := do
  let st ← readNested (nestLimit + 1) verbose ⟨[], [], [], text.toList⟩
  guard (st.rest.isEmpty && st.pattern.depth ≤ nestLimit)
  return st.pattern

end XmlAudit.Regex
