import XmlAudit.Text.Blank
import XmlAudit.Text.Replace

/-!
# Instants of universal time

* `Instant`: a date of the proleptic Gregorian calendar and a time of day, to the nanosecond; the
  last second of a minute may be a 61st one.
* `Instant.render`: the instant as written, with the given sign for universal time.
* `Instant.parse?`: the instant that a text spells, with an offset from universal time.
-/

namespace XmlAudit.Time

/-- A year with a 29th of February. -/
def isLeapYear (y : Int) : Bool := y % 4 = 0 && (y % 100 ≠ 0 || y % 400 = 0)

/-- The number of days of a month. -/
def daysInMonth (y : Int) (month : Nat) : Nat :=
  match month with
  | 2 => if isLeapYear y then 29 else 28
  | 4 | 6 | 9 | 11 => 30
  | _ => 31

/-- A day of the calendar. -/
structure Day where
  year : Int
  month : Nat
  day : Nat
deriving DecidableEq, Repr, Inhabited

/-- An instant; `second` is 60 in a leap second. -/
structure Instant where
  date : Day
  hour : Nat
  minute : Nat
  second : Nat
  nanosecond : Nat
deriving DecidableEq, Repr, Inhabited

namespace Day

/-- The first year that the calendar covers. -/
def firstYear : Int := -262143

/-- The last year that the calendar covers. -/
def lastYear : Int := 262142

/-- A day that exists. -/
def isValid (d : Day) : Bool :=
  (firstYear ≤ d.year && d.year ≤ lastYear) && (1 ≤ d.month && d.month ≤ 12) &&
    (1 ≤ d.day && d.day ≤ daysInMonth d.year d.month)

/-- The day after. -/
def next (d : Day) : Day :=
  if d.day < daysInMonth d.year d.month then { d with day := d.day + 1 }
  else if d.month < 12 then ⟨d.year, d.month + 1, 1⟩
  else ⟨d.year + 1, 1, 1⟩

/-- The day before. -/
def previous (d : Day) : Day :=
  if 1 < d.day then { d with day := d.day - 1 }
  else if 1 < d.month then ⟨d.year, d.month - 1, daysInMonth d.year (d.month - 1)⟩
  else ⟨d.year - 1, 12, 31⟩

end Day

namespace Instant

/-- An instant that exists. -/
def isValid (t : Instant) : Bool :=
  t.date.isValid && t.hour < 24 && t.minute < 60 && t.second ≤ 60 && t.nanosecond < 1000000000

/-- The instant some seconds after the start of 1970. -/
def ofSeconds (seconds nanosecond : Nat) : Instant :=
  let day := (List.range (seconds / 86400)).foldl (fun d _ => d.next) ⟨1970, 1, 1⟩
  let rest := seconds % 86400
  ⟨day, rest / 3600, rest / 60 % 60, rest % 60, nanosecond⟩

/-- A number in decimal digits, filled up with zeros to a width. -/
def digits (width n : Nat) : List Char :=
  let ds := Nat.toDigits 10 n
  List.replicate (width - ds.length) '0' ++ ds

/-- A year, with a sign outside of the four-digit ones. -/
def renderYear (y : Int) : List Char :=
  if 0 ≤ y ∧ y ≤ 9999 then digits 4 y.toNat
  else (if y < 0 then '-' else '+') :: digits 4 y.natAbs

/-- The part of a second, in thousandths, millionths or billionths, as short as it is exact. -/
def renderFraction (n : Nat) : List Char :=
  if n = 0 then []
  else if n % 1000000 = 0 then '.' :: digits 3 (n / 1000000)
  else if n % 1000 = 0 then '.' :: digits 6 (n / 1000)
  else '.' :: digits 9 n

/-- The instant as written, `zone` standing for universal time. -/
def render (zone : String) (t : Instant) : String :=
  String.ofList (renderYear t.date.year ++ '-' :: digits 2 t.date.month ++ '-' ::
    digits 2 t.date.day ++ 'T' :: digits 2 t.hour ++ ':' :: digits 2 t.minute ++ ':' ::
    digits 2 t.second ++ renderFraction t.nanosecond) ++ zone

/-- The instant with the letter for universal time. -/
def renderShort (t : Instant) : String := t.render "Z"

/-- The instant with an offset of zero. -/
def renderLong (t : Instant) : String := t.render "+00:00"

/-- The number of a run of digits. -/
def numberOf (ds : List Char) : Nat := ds.foldl (fun n c => n * 10 + (c.toNat - 48)) 0

/-- A number of at most `width` digits at the start of a text. -/
def readDigits (width : Nat) (cs : List Char) : Option (Nat × List Char) :=
  let ds := (cs.take width).takeWhile Char.isDigit
  if ds.isEmpty then none else some (numberOf ds, cs.drop ds.length)

/-- A number of at most `width` digits at the start of a text, blanks before it skipped. -/
def readNumber (width : Nat) (cs : List Char) : Option (Nat × List Char) :=
  readDigits width (Text.trimStart cs)

/-- A year at the start of a text, blanks before it skipped; a year with a sign may have any number
of digits. -/
def readYear (cs : List Char) : Option (Int × List Char) :=
  match Text.trimStart cs with
  | '-' :: rest => (readDigits rest.length rest).map fun r => (-(r.1 : Int), r.2)
  | '+' :: rest => (readDigits rest.length rest).map fun r => ((r.1 : Int), r.2)
  | cs => (readDigits 4 cs).map fun r => ((r.1 : Int), r.2)

/-- A mark at the start of a text, blanks before it skipped. -/
def readMark (mark : Char) (cs : List Char) : Option (List Char) :=
  Text.dropWord [mark] (Text.trimStart cs)

/-- The part of a second at the start of a text, if there is one; digits after the ninth do not
count. -/
def readFraction (cs : List Char) : Option (Nat × List Char) :=
  match cs with
  | '.' :: rest =>
    let ds := rest.takeWhile Char.isDigit
    let kept := ds.take 9
    if ds.isEmpty then none
    else some (numberOf kept * Nat.pow 10 (9 - kept.length), rest.dropWhile Char.isDigit)
  | _ => some (0, cs)

/-- Two digits at the start of a text. -/
def readPair : List Char → Option (Nat × List Char)
  | a :: b :: rest => if a.isDigit && b.isDigit then some (numberOf [a, b], rest) else none
  | _ => none

/-- An offset of hours and minutes, in minutes. -/
def readOffset (cs : List Char) : Option (Int × List Char) := do
  let (hours, cs) ← readPair cs
  let (minutes, cs) ← readPair (cs.dropWhile fun c => c = ':' || Text.isBlank c)
  if minutes < 60 then return ((hours * 60 + minutes : Nat), cs) else none

/-- The offset from universal time at the start of a text, in minutes. -/
def readZone (cs : List Char) : Option (Int × List Char) :=
  match cs with
  | 'Z' :: rest | 'z' :: rest => some (0, rest)
  | '+' :: rest => readOffset rest
  | '-' :: rest | '\u2212' :: rest => (readOffset rest).map fun r => (-r.1, r.2)
  | a :: b :: c :: rest =>
    if String.ofList ([a, b, c].map Char.toUpper) = "UTC" then some (0, rest) else none
  | _ => none

/-- The instant of a local time, given how many minutes it is ahead. -/
def ofLocal (t : Instant) (ahead : Int) : Instant :=
  let minutes := ((t.hour * 60 + t.minute : Nat) : Int) - ahead
  let date :=
    if minutes < 0 then t.date.previous else if minutes < 1440 then t.date else t.date.next
  let inDay := (minutes % 1440).toNat
  { t with date := date, hour := inDay / 60, minute := inDay % 60 }

/-- The date at the start of a text. -/
def readDay (cs : List Char) : Option (Day × List Char) := do
  let (year, cs) ← readYear cs
  let (month, cs) ← readNumber 2 (← readMark '-' cs)
  let (day, cs) ← readNumber 2 (← readMark '-' cs)
  return (⟨year, month, day⟩, cs)

/-- The time of day at the start of a text, for a date. -/
def readTime (date : Day) (cs : List Char) : Option (Instant × List Char) := do
  let (hour, cs) ← readNumber 2 cs
  let (minute, cs) ← readNumber 2 (← readMark ':' cs)
  let (second, cs) ← readNumber 2 (← readMark ':' cs)
  let (nanosecond, cs) ← readFraction cs
  return (⟨date, hour, minute, second, nanosecond⟩, cs)

/-- A letter or blank between a date and a time. -/
def readSeparator : List Char → Option (List Char)
  | c :: cs => if c = 'T' || c = 't' || c = ' ' then some cs else none
  | [] => none

/-- The instant that a text spells. -/
def parse? (s : String) : Option Instant := do
  let (date, cs) ← readDay s.toList
  let (t, cs) ← readTime date (← readSeparator cs)
  let (ahead, cs) ← readZone (Text.trimStart cs)
  let instant := t.ofLocal ahead
  if (Text.trimStart cs).isEmpty ∧ t.isValid ∧ ahead.natAbs < 1440 ∧ instant.date.isValid then
    return instant
  else none

end Instant

end XmlAudit.Time
