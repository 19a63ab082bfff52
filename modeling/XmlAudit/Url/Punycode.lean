/-!
# Punycode

Labels of host names beyond ASCII are written in ASCII: first the ASCII characters, then how far and
where to count to insert each of the others, the smallest first.

* `Punycode.encode`: the written form of a label.
* `Punycode.decode?`: the label of a written form.
-/

namespace XmlAudit.Url.Punycode

/-- The letters and digits that stand for 0 to 35. -/
def digitOf (n : Nat) : Char := if n < 26 then Char.ofNat (97 + n) else Char.ofNat (22 + n)

/-- The value of a digit. -/
def valueOf? (c : Char) : Option Nat :=
  if 'a' ≤ c ∧ c ≤ 'z' then some (c.toNat - 97)
  else if 'A' ≤ c ∧ c ≤ 'Z' then some (c.toNat - 65)
  else if c.isDigit then some (c.toNat - 22)
  else none

/-- The threshold of a digit at a place that is a multiple of 36. -/
def threshold (place bias : Nat) : Nat := min 26 (max 1 (place - bias))

/-- A distance divided until it is small, and 36 for each division. -/
def shrink : Nat → Nat → Nat → Nat × Nat
  | 0, delta, k => (delta, k)
  | fuel + 1, delta, k => if delta > 455 then shrink fuel (delta / 35) (k + 36) else (delta, k)

/-- The bias after a distance, with `count` characters written so far. -/
def adapt (delta count : Nat) (first : Bool) : Nat :=
  let delta := if first then delta / 700 else delta / 2
  let (delta, k) := shrink delta (delta + delta / count) 0
  k + 36 * delta / (delta + 38)

/-- The digits of a distance; there are at most `fuel` of them. -/
def distance (bias : Nat) : Nat → Nat → Nat → List Char
  | 0, _, q => [digitOf q]
  | fuel + 1, place, q =>
    let t := threshold place bias
    if q < t then [digitOf q]
    else digitOf (t + (q - t) % (36 - t)) :: distance bias fuel (place + 36) ((q - t) / (36 - t))

/-- Where an encoder is: the digits so far in reverse, the distance counted, the bias and how many
characters are written. -/
structure Encoder where
  digits : List Char
  delta : Nat
  bias : Nat
  written : Nat

/-- One character of the label, while characters `point` are inserted. -/
def Encoder.visit (basic point : Nat) (e : Encoder) (c : Char) : Encoder :=
  if c.toNat < point then { e with delta := e.delta + 1 }
  else if c.toNat = point then
    ⟨(distance e.bias e.delta 36 e.delta).reverse ++ e.digits, 0,
      adapt e.delta (e.written + 1) (e.written = basic), e.written + 1⟩
  else e

/-- The characters `point` inserted, those from `next` on being next. -/
def Encoder.insert (label : List Char) (basic : Nat) (state : Encoder × Nat) (point : Nat) :
    Encoder × Nat :=
  let (e, next) := state
  let e := { e with delta := e.delta + (point - next) * (e.written + 1) }
  let e := label.foldl (Encoder.visit basic point) e
  ({ e with delta := e.delta + 1 }, point + 1)

/-- The written form of a label. -/
def encode (label : List Char) : List Char :=
  let basic := label.filter fun c => c.toNat < 128
  let points := (((label.filter fun c => c.toNat ≥ 128).map Char.toNat).mergeSort
    fun a b => decide (a ≤ b)).eraseDups
  let start : Encoder := ⟨[], 0, 72, basic.length⟩
  let (e, _) := points.foldl (Encoder.insert label basic.length) (start, 128)
  basic ++ (if basic.isEmpty then [] else ['-']) ++ e.digits.reverse

/-- Distances and weights of digits stay below this bound. -/
def wordBound : Nat := UInt32.size

/-- A distance read from digits, with the rest: `weight` is that of the next digit. -/
def readDistance (bias : Nat) : Nat → Nat → Nat → List Char → Option (Nat × List Char)
  | _, _, _, [] => none
  | place, weight, sum, c :: cs => do
    let v ← valueOf? c
    let t := threshold place bias
    let sum := sum + v * weight
    if sum ≥ wordBound then none
    else if v < t then return (sum, cs)
    else if weight * (36 - t) ≥ wordBound then none
    else readDistance bias (place + 36) (weight * (36 - t)) sum cs

/-- The characters inserted into `label` as digits tell; there are at most `fuel` of them. -/
def readInsertions (fuel : Nat) (label : List Char) (point index bias : Nat) (first : Bool)
    (cs : List Char) : Option (List Char) :=
  match fuel, cs with
  | _, [] => some label
  | 0, _ => none
  | fuel + 1, cs => do
    let (sum, rest) ← readDistance bias 36 1 0 cs
    let size := label.length + 1
    let point := point + (index + sum) / size
    let place := (index + sum) % size
    if point ≥ 0x110000 ∨ (0xD800 ≤ point ∧ point < 0xE000) then none
    else
      readInsertions fuel (label.take place ++ Char.ofNat point :: label.drop place) point
        (place + 1) (adapt sum size first) false rest

/-- The label of a written form. Before the last hyphen are the ASCII characters, at least one. -/
def decode? (cs : List Char) : Option (List Char) :=
  let digits := (cs.reverse.takeWhile (· ≠ '-')).reverse
  let basic := cs.take (cs.length - digits.length - 1)
  let isWritten := cs.all (·.toNat < 128) && !(basic.isEmpty && cs.contains '-')
  if isWritten then readInsertions digits.length basic 128 0 72 true digits else none

end XmlAudit.Url.Punycode
