import XmlAudit.Number.Decimal
import XmlAudit.Text.Blank

/-!
# Numbers as text

* `numberOfText`: the number that a text spells, or else not a number.
* `textOfNumber`: the text of a number.
* `roundHalfUp`: the nearest integer, a half going up.
-/

namespace XmlAudit.XPath

/-- The value that is not a number. -/
def notANumber : Float := 0.0 / 0.0

/-- Digits with at most one point, and at least one digit. -/
def isUnsignedNumeral (cs : List Char) : Bool :=
  cs.any Char.isDigit && cs.all (fun c => c.isDigit || c = '.') && cs.count '.' ≤ 1

/-- The number that a text spells, blanks around it and a minus sign before it allowed. -/
def numberOfText (s : String) : Float :=
  let trimmed := (Text.trim s).toList
  let negative := trimmed.head? = some '-'
  let unsigned := if negative then trimmed.tail else trimmed
  if isUnsignedNumeral unsigned then Number.Decimal.read negative unsigned else notANumber

/-- The text of a number; both zeros are written alike. -/
def textOfNumber (x : Float) : String :=
  if x.isNaN then "NaN"
  else if x.isInf then if x > 0 then "Infinity" else "-Infinity"
  else if x == 0 then "0"
  else Number.Decimal.render x

/-- The nearest integer, a half going up. -/
def roundHalfUp (x : Float) : Float := if x.isNaN || x.isInf then x else (x + 0.5).floor

end XmlAudit.XPath
