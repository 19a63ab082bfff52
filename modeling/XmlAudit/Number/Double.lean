/-!
# Double-precision numbers as fractions

* `Double.magnitude`: a finite number is `significand · 2 ^ power` up to its sign.
* `Double.nearest`: the double nearest a quotient of natural numbers, a tie going to the even one.
* `Double.remainder`: the exact remainder of a division that rounds toward zero.
-/

namespace XmlAudit.Number

/-- The magnitude `significand · 2 ^ power` of a finite double. -/
structure Magnitude where
  significand : Nat
  power : Int
deriving DecidableEq, Repr

namespace Double

/-- The bit of the sign. -/
def isNegative (x : Float) : Bool := x.toBits >>> 63 = 1

/-- The magnitude of a finite double. -/
def magnitude (x : Float) : Magnitude :=
  let bits : Nat := x.toBits.toNat % Nat.pow 2 63
  let exponent : Nat := bits / Nat.pow 2 52
  let fraction : Nat := bits % Nat.pow 2 52
  if exponent = 0 then ⟨fraction, -1074⟩ else ⟨fraction + Nat.pow 2 52, (exponent : Int) - 1075⟩

/-- The bits of positive infinity. -/
def infinityBits : Nat := 0x7FF0000000000000

/-- A quotient rounded to the nearest natural number, a half to the even one. -/
def roundHalfEven (num den : Nat) : Nat :=
  let quotient := num / den
  let rest := num % den
  if 2 * rest < den ∨ (2 * rest = den ∧ quotient % 2 = 0) then quotient else quotient + 1

/-- The quotient `num / (den · 2 ^ power)` as a fraction. -/
def scaled (num den : Nat) (power : Int) : Nat × Nat :=
  if power ≥ 0 then (num, den * Nat.pow 2 power.toNat) else (num * Nat.pow 2 (-power).toNat, den)

/-- The power of the last bit of the doubles around a positive quotient. -/
def ulpPower (num den : Nat) : Int :=
  let guess : Int := (num.log2 : Int) - den.log2 - 52
  let (n, d) := scaled num den guess
  max (-1074) (if n / d < Nat.pow 2 52 then guess - 1 else guess)

/-- The bits of the double nearest a quotient, infinity where that is too large. -/
def nearestBits (num den : Nat) : Nat :=
  if num = 0 then 0
  else
    let power := ulpPower num den
    let (n, d) := scaled num den power
    min infinityBits ((power + 1074).toNat * Nat.pow 2 52 + roundHalfEven n d)

/-- The double nearest the quotient of two natural numbers, with a sign. -/
def nearest (negative : Bool) (num den : Nat) : Float :=
  Float.ofBits (UInt64.ofNat (nearestBits num den + if negative then Nat.pow 2 63 else 0))

/-- The remainder of the division of finite doubles that rounds toward zero; it has the sign of the
dividend. -/
def finiteRemainder (x y : Float) : Float :=
  let a := magnitude x
  let b := magnitude y
  let power := min a.power b.power
  let m := a.significand * Nat.pow 2 (a.power - power).toNat
  let n := b.significand * Nat.pow 2 (b.power - power).toNat
  let rest := m % n
  if power ≥ 0 then nearest (isNegative x) (rest * Nat.pow 2 power.toNat) 1
  else nearest (isNegative x) rest (Nat.pow 2 (-power).toNat)

/-- The remainder that belongs to division toward zero. -/
def remainder (x y : Float) : Float :=
  if x.isNaN || y.isNaN || x.isInf || y == 0 then 0.0 / 0.0
  else if y.isInf then x
  else finiteRemainder x y

end Double

end XmlAudit.Number
