import XmlAudit.Regex.Class

/-!
# Patterns as they are written

* `Pattern`: the parts of a pattern.
* `ClassSet`: what stands in brackets.
* `Pattern.depth`: how deep parts are nested.
-/

namespace XmlAudit.Regex

open Text (CharSet)

/-- The flags of a pattern: letters of any case match, `^` and `$` match at lines, a dot matches
line feeds, repetitions prefer few matches, carriage returns end lines, characters count and not
bytes, and blanks and comments in the pattern are skipped. -/
inductive Flag where
  | anyCase
  | multiLine
  | dotAll
  | lazy
  | crlf
  | chars
  | verbose
deriving DecidableEq, Repr

/-- Flags switched on or off, in the order in which they are written. -/
abbrev FlagChange := List (Flag × Bool)

/-- A character in a pattern; `byte` tells whether it is written as a byte, with two digits. -/
structure Literal where
  char : Char
  byte : Bool
deriving DecidableEq, Repr

/-- The classes with letters of their own. -/
inductive LetterClass where
  | digit
  | blank
  | word
deriving DecidableEq, Repr

/-- The operators between sets in brackets. -/
inductive SetOperator where
  | inter
  | diff
  | symmetricDiff
deriving DecidableEq, Repr

/-- What stands in brackets. -/
inductive ClassSet where
  | literal (l : Literal)
  | range (first last : Literal)
  | ascii (negated : Bool) (set : CharSet)
  | named (negated : Bool) (query : ClassQuery)
  | letter (negated : Bool) (kind : LetterClass)
  | bracketed (negated : Bool) (inside : ClassSet)
  /-- None or several items next to each other. -/
  | items (members : List ClassSet)
  | op (operator : SetOperator) (left right : ClassSet)

/-- What a place must have before and behind it to be the edge of a word. -/
inductive WordEdge where
  | boundary
  | noBoundary
  | start
  | finish
  /-- Not after a character of a word. -/
  | startHalf
  | finishHalf
deriving DecidableEq, Repr

/-- The marks for places. -/
inductive Mark where
  | lineStart
  | lineEnd
  | textStart
  | textEnd
  | word (edge : WordEdge)
deriving DecidableEq, Repr

end XmlAudit.Regex

/-- A pattern as it is written. -/
inductive XmlAudit.Regex.Pattern where
  | empty
  | flags (change : FlagChange)
  | literal (l : Literal)
  | dot
  | mark (m : Mark)
  | named (negated : Bool) (query : ClassQuery)
  | letter (negated : Bool) (kind : LetterClass)
  | bracketed (negated : Bool) (inside : ClassSet)
  /-- A repetition; without greatest count it has no limit. -/
  | repeated (p : Pattern) (least : Nat) (most : Option Nat)
  /-- A group whose match is kept. -/
  | capture (p : Pattern)
  | group (change : FlagChange) (p : Pattern)
  | sequence (ps : List Pattern)
  | alternation (ps : List Pattern)

namespace XmlAudit.Regex

mutual

/-- How deep sets are nested. -/
def ClassSet.depth : ClassSet → Nat
  | bracketed _ s => s.depth + 1
  | items [] => 0
  | items members => ClassSet.depths members + 1
  | op _ left right => max left.depth right.depth + 1
  | _ => 0

/-- The depth of the deepest of some sets. -/
def ClassSet.depths : List ClassSet → Nat
  | [] => 0
  | s :: rest => max s.depth (ClassSet.depths rest)

end

mutual

/-- **How deep the parts of a pattern are nested.** -/
def Pattern.depth : Pattern → Nat
  | bracketed _ s => s.depth + 1
  | repeated p _ _ => p.depth + 1
  | capture p => p.depth + 1
  | group _ p => p.depth + 1
  | sequence ps => Pattern.depths ps + 1
  | alternation ps => Pattern.depths ps + 1
  | _ => 0

/-- The depth of the deepest of some patterns. -/
def Pattern.depths : List Pattern → Nat
  | [] => 0
  | p :: rest => max p.depth (Pattern.depths rest)

end

/-- Items next to each other as one set. -/
def ClassSet.ofItems : List ClassSet → ClassSet
  | [s] => s
  | members => items members

/-- Patterns one after the other as one pattern. -/
def Pattern.ofSequence : List Pattern → Pattern
  | [] => empty
  | [p] => p
  | ps => sequence ps

/-- Patterns of which one is to match as one pattern. -/
def Pattern.ofAlternatives : List Pattern → Pattern
  | [p] => p
  | ps => alternation ps

end XmlAudit.Regex
