import XmlAudit.Profile

/-!
# Configurations

* `Config`: the settings of a run and the profiles by name.
* `Config.usual`: the settings without any file.
* `Table`: values by name, in the order of the names.
-/

namespace XmlAudit

open Files (Path)

/-- Values by name, in the order of the names. -/
abbrev Table (α : Type) := List (String × α)

namespace Table

/-- A table with another or a changed value. -/
def insert (key : String) (a : α) : Table α → Table α
  | [] => [(key, a)]
  | e :: es =>
    if key < e.1 then (key, a) :: e :: es
    else if e.1 = key then (key, a) :: es
    else e :: insert key a es

/-- A table with the values of another one over its own. -/
def extend (t : Table α) (entries : List (String × α)) : Table α :=
  entries.foldl (fun t e => t.insert e.1 e.2) t

/-- The table of entries, of which later ones count. -/
def ofList (entries : List (String × α)) : Table α := extend [] entries

/-- A table with every value changed, in view of its name. -/
def mapValues (f : String → α → β) (t : Table α) : Table β := t.map fun e => (e.1, f e.1 e.2)

end Table

/-- How reports are shown and written. -/
inductive Format where
  | human
  | json
  | xml
deriving DecidableEq, Repr, Inhabited

/-- The format of a name. -/
def Format.ofName? : String → Option Format
  | "human" => some human
  | "json" => some json
  | "xml" => some xml
  | _ => none

/-- The name of a format. -/
def Format.name : Format → String
  | human => "human"
  | json => "json"
  | xml => "xml"

/-- Where copies of remote files are kept, and whether and how many compiled stylesheets are. -/
structure CacheSettings where
  directory : Path
  disableTransforms : Bool
  maxTransforms : UInt64
deriving DecidableEq, Repr

/-- How long a request may take, how often it is repeated and after how long. -/
structure NetworkSettings where
  timeoutSeconds : UInt64
  retryAttempts : UInt32
  retryDelayMs : UInt64
deriving DecidableEq, Repr

/-- How reports are shown, and in which language. -/
structure OutputSettings where
  format : Format
  verbose : Bool
  quiet : Bool
  locale : String
deriving DecidableEq, Repr

/-- The settings of a run; relative paths in profiles start at `resourceRoot`. -/
structure Config where
  cache : CacheSettings
  network : NetworkSettings
  resourceRoot : Path
  output : OutputSettings
  profiles : Table Profile
deriving DecidableEq, Repr

namespace Config

/-- The name of the program, under which it keeps its files. -/
def programName : String := "xml-conformance"

/-- The settings without any file, given the directory for caches. -/
def usual (cacheHome : Path) : Config :=
  { cache := ⟨cacheHome.child programName, false, 256⟩
    network := ⟨30, 3, 1000⟩
    resourceRoot := .ofText "."
    output := ⟨.human, false, false, "en"⟩
    profiles := [] }

end Config

end XmlAudit
