import XmlAudit.Data.Basic
import XmlAudit.Time.Instant

/-!
# Moments of a TOML file

* `Moment`: a day, a time of day, or both, then with or without an offset.
* `Moment.parse?`: the moment that a word spells.
* `Moment.toData`: a moment is a table whose only value is the moment as written.
-/

namespace XmlAudit.Data.Toml

open Time (Day)

/-- A time of day. -/
structure Clock where
  hour : Nat
  minute : Nat
  second : Nat
  nanosecond : Nat
deriving DecidableEq, Repr

/-- How far a local time is ahead of universal time: not at all, in one letter, or some minutes. -/
inductive Offset where
  | universal
  | ahead (minutes : Int)
deriving DecidableEq, Repr

/-- A day, a time of day, or both; only both may have an offset. -/
inductive Moment where
  | day (d : Day)
  | clock (t : Clock)
  | both (d : Day) (t : Clock) (offset : Option Offset)
deriving DecidableEq, Repr

open Time.Instant (readPair digits)

/-- A time of day that exists; a minute may have a 61st second. -/
def Clock.isValid (t : Clock) : Bool := t.hour < 24 && t.minute < 60 && t.second ≤ 60

/-- A pair of digits after a mark. -/
def readPairAfter (mark : Char) : List Char → Option (Nat × List Char)
  | c :: cs => if c = mark then readPair cs else none
  | [] => none

/-- A day at the start of a text, in digits of fixed number. -/
def readDay (cs : List Char) : Option (Day × List Char) := do
  let (century, cs) ← readPair cs
  let (year, cs) ← readPair cs
  let (month, cs) ← readPairAfter '-' cs
  let (day, cs) ← readPairAfter '-' cs
  let d : Day := ⟨(century * 100 + year : Nat), month, day⟩
  if d.isValid then return (d, cs) else none

/-- The seconds at the start of a text, with any fraction of them; they may be missing. -/
def readSeconds (cs : List Char) : Option (Nat × Nat × List Char) :=
  match cs with
  | ':' :: rest => do
    let (second, rest) ← readPair rest
    let (nanosecond, rest) ← Time.Instant.readFraction rest
    return (second, nanosecond, rest)
  | _ => some (0, 0, cs)

/-- A time of day at the start of a text. -/
def readClock (cs : List Char) : Option (Clock × List Char) := do
  let (hour, cs) ← readPair cs
  let (minute, cs) ← readPairAfter ':' cs
  let (second, nanosecond, cs) ← readSeconds cs
  let t : Clock := ⟨hour, minute, second, nanosecond⟩
  if t.isValid then return (t, cs) else none

/-- The minutes of an offset that is all of a text. -/
def offsetMinutes? (cs : List Char) : Option Int := do
  let (hours, cs) ← readPair cs
  let (minutes, cs) ← readPairAfter ':' cs
  if hours < 24 ∧ minutes < 60 ∧ cs.isEmpty then return ((hours * 60 + minutes : Nat) : Int)
  else none

/-- The offset that a text spells, which may be empty. -/
def offset? : List Char → Option (Option Offset)
  | [] => some none
  | ['Z'] | ['z'] => some (some .universal)
  | '+' :: cs => (offsetMinutes? cs).map fun n => some (.ahead n)
  | '-' :: cs => (offsetMinutes? cs).map fun n => some (.ahead (-n))
  | _ => none

namespace Moment

/-- The moment that a word spells. -/
def parse? (cs : List Char) : Option Moment :=
  match readDay cs with
  | some (d, []) => some (day d)
  | some (d, c :: cs) => do
    if c = 'T' ∨ c = 't' ∨ c = ' ' then
      let (t, cs) ← readClock cs
      return both d t (← offset? cs)
    else none
  | none =>
    match readClock cs with
    | some (t, []) => some (clock t)
    | _ => none

/-- Whether a word spells a day, after which a blank and a time of day may follow. -/
def isDay (cs : List Char) : Bool := parse? cs matches some (day _)

/-- The part of a second, without zeros at the end. -/
def renderFraction (nanosecond : Nat) : List Char :=
  if nanosecond = 0 then []
  else '.' :: ((digits 9 nanosecond).reverse.dropWhile (· = '0')).reverse

/-- A day as written. -/
def renderDay (d : Day) : List Char :=
  digits 4 d.year.toNat ++ '-' :: digits 2 d.month ++ '-' :: digits 2 d.day

/-- A time of day as written. -/
def renderClock (t : Clock) : List Char :=
  digits 2 t.hour ++ ':' :: digits 2 t.minute ++ ':' :: digits 2 t.second ++
    renderFraction t.nanosecond

/-- An offset as written. -/
def renderOffset : Offset → List Char
  | .universal => ['Z']
  | .ahead n =>
    (if n < 0 then '-' else '+') :: digits 2 (n.natAbs / 60) ++ ':' :: digits 2 (n.natAbs % 60)

/-- A moment as written. -/
def render : Moment → List Char
  | day d => renderDay d
  | clock t => renderClock t
  | both d t offset => renderDay d ++ 'T' :: renderClock t ++ (offset.map renderOffset).getD []

/-- The key under which a moment stands. -/
def key : String := "$__toml_private_datetime"

/-- A moment as data. -/
def toData (m : Moment) : Data := .table [(key, .text (String.ofList m.render))]

end Moment

end XmlAudit.Data.Toml
