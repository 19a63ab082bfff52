import XmlAudit.Data.Basic

/-!
# Tables of a TOML file

A TOML file defines its tables piece by piece. A table may be named before it is defined, but it is
defined only once: by a header of its own or by dotted keys.

* `Draft`: what is known of the tables so far.
* `Draft.insert?`: one more value, under a dotted key.
* `Draft.openTable?`, `Draft.openItem?`: a table, or one more table of a list, whose values follow.
* `Draft.toData`: the tables as data.
-/

namespace XmlAudit.Data

/-- How a table came about: its own header, the header of a table inside it, or a dotted key. -/
inductive Origin where
  | header
  | inner
  | dotted
deriving DecidableEq

/-- What is known of a table so far, or a value that is complete. The last one of several tables is
the one that is open. -/
inductive Draft where
  | value (d : Data)
  | table (origin : Origin) (entries : List (String × Draft))
  | tables (items : List Draft)

namespace Draft

/-- Entries with a changed or added one. -/
def put (key : String) (d : Draft) : List (String × Draft) → List (String × Draft)
  | [] => [(key, d)]
  | e :: es => if e.1 = key then (key, d) :: es else e :: put key d es

/-- The table that a draft is, or the open one of several, with how it came about, its entries and
the draft that other entries make. -/
def opened? : Draft → Option (Origin × List (String × Draft) × (List (String × Draft) → Draft))
  | table o es => some (o, es, table o)
  | tables items =>
    match items.getLast? with
    | some (table o es) => some (o, es, fun es => tables (items.dropLast ++ [table o es]))
    | _ => none
  | value _ => none

/-- A change made to the table that keys lead to, in view of how that came about. Missing tables on
the way come about as `origin` says, and dotted keys do not lead into a table with a header of its
own. -/
def within? (origin : Origin)
    (change : Origin → List (String × Draft) → Option (List (String × Draft))) :
    List String → Draft → Option Draft
  | [], d => do
    let (o, es, remade) ← d.opened?
    return remade (← change o es)
  | k :: ks, d => do
    let (_, es, remade) ← d.opened?
    let inner := (es.lookup k).getD (table origin [])
    if origin = .dotted ∧ inner matches table .header _ then none
    else return remade (put k (← within? origin change ks inner) es)

/-- One more value under the keys after the path of the open table. A dotted key ends in a table
that dotted keys made, any other key in a table that they did not make. -/
def insert? (d : Draft) (path keys : List String) (v : Data) : Option Draft :=
  match keys.getLast? with
  | none => none
  | some last =>
    let add (o : Origin) (es : List (String × Draft)) : Option (List (String × Draft)) :=
      if (o = .dotted ↔ keys.length > 1) ∧ (es.lookup last).isNone then
        some (put last (value v) es)
      else none
    within? .inner (fun o es =>
      match within? .dotted add keys.dropLast (table o es) with
      | some (table _ es) => some es
      | _ => none) path d

/-- The table of a header, which must not have been defined before. -/
def openTable? (d : Draft) (path : List String) : Option Draft :=
  match path.getLast? with
  | none => none
  | some last =>
    within? .inner (fun _ es =>
      match es.lookup last with
      | none => some (put last (table .header []) es)
      | some (table .inner inner) => some (put last (table .header inner) es)
      | _ => none) path.dropLast d

/-- One more table of a list of tables. -/
def openItem? (d : Draft) (path : List String) : Option Draft :=
  match path.getLast? with
  | none => none
  | some last =>
    within? .inner (fun _ es =>
      match es.lookup last with
      | none => some (put last (tables [table .header []]) es)
      | some (tables items) => some (put last (tables (items ++ [table .header []])) es)
      | _ => none) path.dropLast d

mutual

/-- The data of a draft. -/
def toData : Draft → Data
  | value d => d
  | table _ es => .table (entriesData es)
  | tables items => .list (itemsData items)

/-- The data of entries. -/
def entriesData : List (String × Draft) → List (String × Data)
  | [] => []
  | (k, d) :: es => (k, d.toData) :: entriesData es

/-- The data of several drafts. -/
def itemsData : List Draft → List Data
  | [] => []
  | d :: ds => d.toData :: itemsData ds

end

/-- The draft of an empty file. -/
def empty : Draft := table .header []

end Draft

end XmlAudit.Data
