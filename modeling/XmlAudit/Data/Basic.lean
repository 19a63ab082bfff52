/-!
# Structured data

What a file of settings or a report holds, whatever notation it is written in.

* `Data`: values, lists and tables.
* `Notation`: what a file may be written in; it decides how freely lists and choices are spelled.
* `Data.record?`: the values of the known keys of a table.
* `required?`, `optional?`, `withDefault?`: one of these values as part of a record.
-/

namespace XmlAudit

/-- Structured data; a literal is a number with a fraction or anything else that no record uses, and
an overflow a number beyond every range, which no record may even hold under a key of its own. -/
inductive Data where
  | null
  | boolean (b : Bool)
  | integer (n : Int)
  | literal (s : String)
  | overflow (s : String)
  | text (s : String)
  | list (items : List Data)
  | table (entries : List (String × Data))
deriving Inhabited

/-- A notation of data. -/
inductive Notation where
  | json
  | toml
deriving DecidableEq, Repr

/-- What stands for no value at all: null, or where there is none, an empty list or table. -/
def Notation.isVoid : Notation → Data → Bool
  | json, .null | toml, .list [] | toml, .table [] => true
  | _, _ => false

/-- Whether a list may have more items than a record has keys. -/
def Notation.allowsMore : Notation → Bool
  | json => false
  | toml => true

namespace Data

mutual

/-- Whether no number in data is beyond every range. -/
def isReadable : Data → Bool
  | overflow _ => false
  | list items => areReadable items
  | table entries => haveReadable entries
  | _ => true

/-- Whether no number in several data is beyond every range. -/
def areReadable : List Data → Bool
  | [] => true
  | d :: ds => d.isReadable && areReadable ds

/-- Whether no number in the values of entries is beyond every range. -/
def haveReadable : List (String × Data) → Bool
  | [] => true
  | (_, d) :: es => d.isReadable && haveReadable es

end

/-- The text that data is. -/
def text? : Data → Option String
  | text s => some s
  | _ => none

/-- The truth value that data is. -/
def boolean? : Data → Option Bool
  | boolean b => some b
  | _ => none

/-- The number below a bound that data is. -/
def natBelow? (bound : Nat) : Data → Option Nat
  | integer n => if 0 ≤ n ∧ n < bound then some n.toNat else none
  | _ => none

/-- The list that data is, each item read. -/
def list? (read : Data → Option α) : Data → Option (List α)
  | list items => items.mapM read
  | _ => none

/-- The table that data is, each value read. -/
def table? (read : Data → Option α) : Data → Option (List (String × α))
  | table entries => entries.mapM fun e => (read e.2).map (e.1, ·)
  | _ => none

/-- The name of a choice: a text, or the only key of a table whose value says nothing. -/
def choice? (n : Notation) : Data → Option String
  | text s => some s
  | table [(s, d)] => if n.isVoid d then some s else none
  | _ => none

/-- The values of known keys, in the order of these. A table may have other keys, but a known one
only once; a list gives the first values. -/
def record? (n : Notation) (keys : List String) : Data → Option (List (Option Data))
  | table entries =>
    if (keys.all fun k => (entries.filter (·.1 = k)).length ≤ 1) &&
        haveReadable (entries.filter fun e => !keys.contains e.1) then
      some (keys.map fun k => entries.lookup k)
    else none
  | list items =>
    if items.length ≤ keys.length then
      some (items.map some ++ List.replicate (keys.length - items.length) none)
    else if n.allowsMore then some ((items.take keys.length).map some)
    else none
  | _ => none

end Data

/-- A value that has to be there. -/
def required? (read : Data → Option α) (d : Option Data) : Option α := d.bind read

/-- A value that may be missing or null. -/
def optional? (read : Data → Option α) : Option Data → Option (Option α)
  | none | some .null => some none
  | some d => (read d).map some

/-- A value that, if it is missing, is a given one. -/
def withDefault? (value : α) (read : Data → Option α) : Option Data → Option α
  | none => some value
  | some d => read d

end XmlAudit
