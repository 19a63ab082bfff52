import XmlAudit.Regex.Class.Age
import XmlAudit.Regex.Class.Break
import XmlAudit.Regex.Class.Script
import XmlAudit.Text.Letters

/-!
# Named classes

* `normalizeName`: names as they are compared.
* `ClassQuery`: the two ways to ask for a class, by one name or by a property and its value.
* `ClassQuery.find?`: the characters of the class asked for.
* `digits`, `blanks`, `wordChars`: the classes with letters of their own.
* `asciiClass?`: the classes of ASCII characters.
-/

namespace XmlAudit.Regex

open Text (CharSet)

/-- A leading `is` in any case is dropped. -/
def dropIs : List Char → List Char × Bool
  | 'i' :: 's' :: cs | 'I' :: 's' :: cs | 'i' :: 'S' :: cs | 'I' :: 'S' :: cs => (cs, true)
  | cs => (cs, false)

/-- A name as it is compared: in lower case, without `is` at its start and without blanks, hyphens,
low lines and characters that are not ASCII. What is left of `isc` is a name of its own. -/
def normalizeName (name : String) : String :=
  let (cs, dropped) := dropIs name.toList
  let kept := cs.filter fun c => c.toNat < 128 && c != ' ' && c != '-' && c != '_'
  let lower := String.ofList (kept.map Char.toLower)
  if dropped && lower = "c" then "isc" else lower

/-- How a class is asked for. -/
inductive ClassQuery where
  | name (name : String)
  | value (property value : String)
deriving DecidableEq, Repr

/-- The class of a property, a general category or a script; a property comes first. -/
def namedClass? (name : String) : Option CharSet :=
  match findClass? properties name with
  | some s => some s
  | none =>
    match category? name with
    | some s => some s
    | none => script? name

/-- The class of a value of a property. -/
def valueClass? (property value : String) : Option CharSet :=
  match property with
  | "gc" | "generalcategory" => category? value
  | "sc" | "script" => script? value
  | "scx" | "scriptextensions" => scriptExtension? value
  | "age" => age? value
  | "gcb" | "graphemeclusterbreak" => findClass? graphemeBreaks value
  | "wb" | "wordbreak" => findClass? wordBreaks value
  | "sb" | "sentencebreak" => findClass? sentenceBreaks value
  | _ => none

/-- **The characters of the class asked for**, if there is one. -/
def ClassQuery.find? : ClassQuery → Option CharSet
  | name n => namedClass? (normalizeName n)
  | value p v => valueClass? (normalizeName p) (normalizeName v)

/-- The decimal digits. -/
def digits : CharSet := ⟨Text.decimalRanges⟩

/-- The blanks. -/
def blanks : CharSet := ⟨Text.blankRanges⟩

/-- The characters of words: letters, marks, digits, connectors and joiners. -/
def wordChars : CharSet := ⟨Text.wordRanges⟩

/-- The ranges of the classes of ASCII characters. -/
def asciiClasses : List (String × String) := [
  ("alnum", "30-39 41-5A 61-7A"), ("alpha", "41-5A 61-7A"), ("ascii", "0-7F"), ("blank", "9 20"),
  ("cntrl", "0-1F 7F"), ("digit", "30-39"), ("graph", "21-7E"), ("lower", "61-7A"),
  ("print", "20-7E"), ("punct", "21-2F 3A-40 5B-60 7B-7E"), ("space", "9-D 20"),
  ("upper", "41-5A"), ("word", "30-39 41-5A 5F 61-7A"), ("xdigit", "30-39 41-46 61-66")]

/-- The characters of a class of ASCII characters. -/
def asciiClass? (name : String) : Option CharSet := (asciiClasses.lookup name).map .ofText

end XmlAudit.Regex
