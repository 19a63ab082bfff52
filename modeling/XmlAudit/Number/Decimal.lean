import XmlAudit.Number.Double

/-!
# Decimal notation

* `Decimal.read`: the double nearest to what digits with at most one point spell.
* `Decimal.shortest?`: the coarsest decimal grid with a point that reads back as a given double,
  and the point nearest to it.
* `Decimal.render`: that point written out in digits, without an exponent.
* `Decimal.renderPlaces`: a double rounded to a number of decimal places.
-/

namespace XmlAudit.Number

namespace Decimal

/-- The value of a digit. -/
def digit (c : Char) : Nat := c.toNat - '0'.toNat

/-- The number that digits spell. -/
def ofDigits (digits : List Char) : Nat := digits.foldl (fun n c => n * 10 + digit c) 0

/-- The double that digits spell, those behind a point counting as decimal places. -/
def read (negative : Bool) (cs : List Char) : Float :=
  let places := (cs.dropWhile (· ≠ '.')).drop 1
  Double.nearest negative (ofDigits (cs.takeWhile (· ≠ '.') ++ places)) (Nat.pow 10 places.length)

/-- The numbers that read back as a double, over a common denominator: from `low` to `high` around
`value`, the ends among them if `closed`. -/
structure Neighbourhood where
  low : Nat
  value : Nat
  high : Nat
  denominator : Nat
  closed : Bool

/-- The neighbourhood of a double: half a unit of its last bit on both sides, a quarter below the
powers of two where the doubles are twice as dense. -/
def neighbourhood (m : Magnitude) : Neighbourhood :=
  let quarter := if m.significand = Nat.pow 2 52 ∧ m.power > -1074 then 1 else 2
  let up := Nat.pow 2 m.power.toNat
  ⟨(4 * m.significand - quarter) * up, 4 * m.significand * up, (4 * m.significand + 2) * up,
    4 * Nat.pow 2 (-m.power).toNat, m.significand % 2 = 0⟩

/-- Whether a fraction over the denominator of a neighbourhood lies in it. -/
def Neighbourhood.contains (n : Neighbourhood) (x : Nat) : Bool :=
  if n.closed then n.low ≤ x && x ≤ n.high else n.low < x && x < n.high

/-- The neighbourhood in units of `10 ^ exponent`, so that the points of that grid are integers. -/
def Neighbourhood.onGrid (n : Neighbourhood) (exponent : Int) : Neighbourhood :=
  let down := Nat.pow 10 (-exponent).toNat
  ⟨n.low * down, n.value * down, n.high * down, n.denominator * Nat.pow 10 exponent.toNat, n.closed⟩

/-- The point of the integer grid nearest to the value, if one lies in the neighbourhood; of two
that are equally near, the greater. -/
def Neighbourhood.nearestPoint? (n : Neighbourhood) : Option Nat :=
  let below := n.value / n.denominator
  let rest := n.value % n.denominator
  let lower := n.contains (below * n.denominator)
  let upper := n.contains ((below + 1) * n.denominator)
  if lower && (!upper || 2 * rest < n.denominator) then some below
  else if upper then some (below + 1)
  else none

/-- The grids from `10 ^ exponent` downward, at most `count` of them: the first with a point in the
neighbourhood, and that point. -/
def coarsest (n : Neighbourhood) : Nat → Int → Option (Nat × Int)
  | 0, _ => none
  | count + 1, exponent =>
    match (n.onGrid exponent).nearestPoint? with
    | some point => some (point, exponent)
    | none => coarsest n count (exponent - 1)

/-- The fewest digits that read back as a positive double, with the power of ten of the last. -/
def shortest? (m : Magnitude) : Option (Nat × Int) := coarsest (neighbourhood m) 660 310

/-- The digits of a natural number. -/
def digits (n : Nat) : List Char := Nat.toDigits 10 n

/-- A natural number times a power of ten, written out. -/
def positional (n : Nat) (exponent : Int) : List Char :=
  if exponent ≥ 0 then digits n ++ List.replicate exponent.toNat '0'
  else
    let places := (-exponent).toNat
    let ds := digits n
    let padded := List.replicate (places + 1 - ds.length) '0' ++ ds
    padded.take (padded.length - places) ++ '.' :: padded.drop (padded.length - places)

/-- A finite double written out with the fewest digits that read back as it. -/
def render (x : Float) : String :=
  let m := Double.magnitude x
  let body :=
    if m.significand = 0 then ['0']
    else match shortest? m with
      | some (n, exponent) => positional n exponent
      | none => ['0']
  String.ofList (if Double.isNegative x then '-' :: body else body)

/-- A finite double that is not negative with a number of decimal places, at least one; a tie goes
to the even last digit. -/
def renderPlaces (places : Nat) (x : Float) : String :=
  let m := Double.magnitude x
  let scaled := Double.roundHalfEven (m.significand * Nat.pow 2 m.power.toNat * Nat.pow 10 places)
    (Nat.pow 2 (-m.power).toNat)
  String.ofList (positional scaled (-places))

/-- Digits with a point behind the first one, if there are others, and the exponent of the first. -/
def exponential (n : Nat) (exponent : Int) : List Char :=
  match digits n with
  | [] => []
  | first :: rest =>
    let point := if rest.isEmpty then [] else '.' :: rest
    first :: point ++ 'e' :: (toString (exponent + rest.length)).toList

/-- The powers of ten between which a number is written without an exponent: from `10 ^ -4` up to,
but not including, `10 ^ 16`. -/
def isPlain (x : Float) : Bool := x == 0 || (x.abs ≥ 1e-4 && x.abs < 1e16)

/-- A double with at least one decimal place, or with an exponent if it is very large or small. -/
def renderExponential (x : Float) : String :=
  if x.isNaN then "NaN"
  else if x.isInf then if x > 0 then "inf" else "-inf"
  else if isPlain x then
    let s := render x
    if s.toList.contains '.' then s else s ++ ".0"
  else
    let body := match shortest? (Double.magnitude x) with
      | some (n, exponent) => exponential n exponent
      | none => ['0']
    String.ofList (if Double.isNegative x then '-' :: body else body)

end Decimal

end XmlAudit.Number
