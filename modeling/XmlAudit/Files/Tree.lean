import XmlAudit.Files.Path

/-!
# Trees of files

* `FileTree.read`, `FileTree.write`, `FileTree.makeDirectories`, `FileTree.names`, `FileTree.erase`:
  the files under a root, as a value.
* `FileTree.find?`: what is at a place.
* `Fault`: why a file cannot be used.
-/

namespace XmlAudit.Files

/-- Why a file cannot be used. -/
inductive Fault where
  | notFound
  | notADirectory
  | isADirectory
  | alreadyThere
  | nameTooLong
  | nulInName
deriving DecidableEq, Repr

/-- How a fault is worded. -/
def Fault.message : Fault → String
  | notFound => "No such file or directory (os error 2)"
  | notADirectory => "Not a directory (os error 20)"
  | isADirectory => "Is a directory (os error 21)"
  | alreadyThere => "File exists (os error 17)"
  | nameTooLong => "File name too long (os error 36)"
  | nulInName => "file name contained an unexpected NUL byte"

/-- The names that lead from the root to a file or directory. -/
abbrev Place := List String

/-- The path of a place. -/
def Place.path (k : Place) : Path :=
  match k with
  | [] => ⟨["", ""]⟩
  | _ => ⟨"" :: k⟩

/-- What is at a place. -/
inductive Entry where
  | directory
  | file (content : List UInt8)
deriving DecidableEq, Repr

/-- What is at which place, the latest entry of a place counting, and the place from which relative
paths start. The root is always a directory. -/
structure FileTree where
  entries : List (Place × Option Entry)
  here : Place

namespace FileTree

/-- The tree without files, of which `here` is a directory. -/
def empty (here : Place) : FileTree :=
  ⟨(List.range (here.length + 1)).map fun n => (here.take n, some .directory), here⟩

/-- What is at a place. -/
def find? (t : FileTree) (k : Place) : Option Entry :=
  if k = [] then some .directory else (t.entries.lookup k).join

/-- The tree with something else at a place, or with nothing there. -/
def set (t : FileTree) (k : Place) (e : Option Entry) : FileTree :=
  { t with entries := (k, e) :: t.entries }

/-- Whether there is a file at a place. -/
def holdsFile (t : FileTree) (k : Place) : Bool :=
  match t.find? k with
  | some (.file _) => true
  | _ => false

/-- The longest name that a file can have, in bytes. -/
def nameLimit : Nat := 255

/-- The longest path that can be followed, in bytes as it is written. -/
def pathLimit : Nat := 4095

/-- Segments followed from a place. All but the last step need a directory to start from. -/
def follow (t : FileTree) (k : Place) : List String → Except Fault Place
  | [] => .ok k
  | s :: rest =>
    match t.find? k with
    | none => .error .notFound
    | some (.file _) => .error .notADirectory
    | some .directory =>
      if Path.isIdle s then follow t k rest
      else if s = ".." then follow t k.dropLast rest
      else if s.utf8ByteSize > nameLimit then .error .nameTooLong
      else follow t (k ++ [s]) rest

/-- The place from which a path starts. -/
def start (t : FileTree) (p : Path) : Place := if p.isAbsolute then [] else t.here

/-- The place that a path leads to, where there may be nothing. -/
def locate (t : FileTree) (p : Path) : Except Fault Place :=
  if p.holdsNul then .error .nulInName
  else if p.isEmpty then .error .notFound
  else if p.text.utf8ByteSize > pathLimit then .error .nameTooLong
  else t.follow (t.start p) p.segments

/-- What a path leads to. -/
def entry (t : FileTree) (p : Path) : Except Fault Entry := do
  match t.find? (← t.locate p) with
  | some e => return e
  | none => throw .notFound

/-- Whether a path leads to a file. -/
def isFile (t : FileTree) (p : Path) : Bool :=
  match t.entry p with
  | .ok (.file _) => true
  | _ => false

/-- Whether a path leads to a directory. -/
def isDirectory (t : FileTree) (p : Path) : Bool :=
  match t.entry p with
  | .ok .directory => true
  | _ => false

/-- The path of the place that a path leads to, if there is something. -/
def canonical (t : FileTree) (p : Path) : Except Fault Path := do
  let k ← t.locate p
  if (t.find? k).isSome then return Place.path k else throw .notFound

/-- The content of a file. -/
def read (t : FileTree) (p : Path) : Except Fault (List UInt8) := do
  match ← t.entry p with
  | .file content => return content
  | .directory => throw .isADirectory

/-- The tree in which a file has some content. -/
def write (t : FileTree) (p : Path) (content : List UInt8) : Except Fault FileTree := do
  let k ← t.locate p
  match t.find? k with
  | some .directory => throw .isADirectory
  | _ => return t.set k (some (.file content))

/-- Directories made along segments from a place, up to the first that cannot be made: why it cannot,
and the tree with those before it. -/
def makeFrom (t : FileTree) (k : Place) : List String → Except Fault Unit × FileTree
  | [] => (.ok (), t)
  | s :: rest =>
    if Path.isIdle s then makeFrom t k rest
    else if s = ".." then makeFrom t k.dropLast rest
    else if s.utf8ByteSize > nameLimit then (.error .nameTooLong, t)
    else
      match t.find? (k ++ [s]) with
      | some .directory => makeFrom t (k ++ [s]) rest
      | some (.file _) =>
        (.error (if rest.all Path.isIdle then .alreadyThere else .notADirectory), t)
      | none => makeFrom (t.set (k ++ [s]) (some .directory)) (k ++ [s]) rest

/-- The directories of a path made as far as that can be done. -/
def prepare (t : FileTree) (p : Path) : Except Fault Unit × FileTree :=
  if p.holdsNul then (.error .nulInName, t)
  else if p.text.utf8ByteSize > pathLimit then (.error .nameTooLong, t)
  else t.makeFrom (t.start p) p.segments

/-- The tree in which a path leads to a directory, made with all directories on the way. -/
def makeDirectories (t : FileTree) (p : Path) : Except Fault FileTree :=
  (t.prepare p).1.map fun _ => (t.prepare p).2

/-- The name of something right inside a directory. -/
def childName? (directory k : Place) : Option String :=
  if k.dropLast = directory && !k.isEmpty then k.getLast? else none

/-- The tree with a new directory in one that is there. -/
def makeDirectory (t : FileTree) (p : Path) : Except Fault FileTree := do
  let k ← t.locate p
  if (t.find? k).isSome then throw .alreadyThere else return t.set k (some .directory)

/-- The names in a directory, in order. -/
def names (t : FileTree) (p : Path) : Except Fault (List String) := do
  let k ← t.locate p
  match t.find? k with
  | none => throw .notFound
  | some (.file _) => throw .notADirectory
  | some .directory =>
    let all := (t.entries.filterMap fun e => childName? k e.1).eraseDups
    return (all.filter fun s => (t.find? (k ++ [s])).isSome).mergeSort (fun a b => decide (a ≤ b))

/-- The tree without a file. -/
def erase (t : FileTree) (p : Path) : Except Fault FileTree := do
  let k ← t.locate p
  match t.find? k with
  | some (.file _) => return t.set k none
  | some .directory => throw .isADirectory
  | none => throw .notFound

/-- The tree without what is at or below a place. -/
def eraseAll (t : FileTree) (k : Place) : FileTree :=
  { t with entries := t.entries.filter fun e => !k.isPrefixOf e.1 }

/-- All files below a place with their contents, in the order of their paths as written. -/
def filesBelow (t : FileTree) (k : Place) : List (Place × List UInt8) :=
  let places := ((t.entries.map (·.1)).filter k.isPrefixOf).eraseDups
  let sorted := places.mergeSort fun a b => decide ((Place.path a).text ≤ (Place.path b).text)
  sorted.filterMap fun p =>
    match t.find? p with
    | some (.file content) => some (p, content)
    | _ => none

end FileTree

end XmlAudit.Files
