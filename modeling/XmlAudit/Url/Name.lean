import XmlAudit.Text.Normalization
import XmlAudit.Text.Replace
import XmlAudit.Url.Name.Direction
import XmlAudit.Url.Name.Joining
import XmlAudit.Url.Name.Mapping
import XmlAudit.Url.Punycode

/-!
# Domain names

Labels beyond ASCII are written in ASCII behind a mark. A name in either form has one written form,
whatever the case of its letters.

* `Name.plain?`: a name with each character replaced by what it stands for, in normal form.
* `Name.label?`: the label that a written one stands for.
* `Name.isValidLabel`: whether a label may be part of a name.
* `Name.toAscii?`: the written form of a name.
-/

namespace XmlAudit.Url.Name

/-- The mark in front of the written form of a label beyond ASCII. -/
def mark : List Char := "xn--".toList

/-- Whether characters are ASCII. -/
def isAscii (cs : List Char) : Bool := cs.all (·.toNat < 128)

/-- A name with each character replaced by what it stands for, in normal form; none if a character
is in no name. -/
def plain? (name : List Char) : Option (List Char) :=
  if isAscii name then some (name.map Char.toLower)
  else do
    let images ← name.mapM fun c => mapped? c.toNat
    return Text.normalize (images.flatten.map Char.ofNat)

/-- Whether a character stands for itself. -/
def isPlainChar (c : Char) : Bool := mapped? c.toNat = some [c.toNat]

/-- The longest written form of a label, without the mark, that is read. -/
def writtenLimit : Nat := 2000

/-- The longest label beyond ASCII. -/
def labelLimit : Nat := 1000

/-- The label beyond ASCII that a written form without its mark stands for. It must have characters
in normal form that stand for themselves. -/
def decoded? (written : List Char) : Option (List Char) :=
  if !isAscii written || written.isEmpty || written.getLast? = some '-' ||
      written.length > writtenLimit then
    none
  else do
    let label ← Punycode.decode? written
    if label.all isPlainChar && Text.normalize label = label then some label else none

/-- The label that a written one stands for, which without the mark is itself. -/
def label? (written : List Char) : Option (List Char) :=
  match Text.dropWord mark written with
  | some rest => decoded? rest
  | none => some written

/-- Whether a label may be part of a name: it does not start with a mark on a letter, has joiners
only where they count, and is not too long. -/
def isValidLabel (label : List Char) : Bool :=
  isAscii label ||
    (!(label.head?.any marks.contains) && hasValidJoiners label && label.length ≤ labelLimit)

/-- Whether the labels of a name run one way each, where that is in doubt. -/
def haveClearDirections (labels : List (List Char)) : Bool :=
  !labels.any hasRightToLeft || labels.all hasClearDirection

/-- A label as written. -/
def written (label : List Char) : List Char :=
  if isAscii label then label else mark ++ Punycode.encode label

/-- **The written form of a name**, in ASCII and small letters, given which characters no name has;
none if there is none. -/
def toAscii? (isForbidden : Char → Bool) (name : List Char) : Option (List Char) := do
  let plain ← plain? name
  let labels ← (Text.splitFrom '.' [] plain).mapM label?
  if plain.any isForbidden || !labels.all isValidLabel || !haveClearDirections labels then none
  else return ['.'].intercalate (labels.map written)

end XmlAudit.Url.Name
