import XmlAudit.Text.Replace

/-!
# Paths

A path is what it spells, cut at the slashes: `a//b` and `a/b` are two paths to one place.

* `Path.components`: what a path names, apart from how it is spelled.
* `Path.parent?`, `Path.fileName?`, `Path.extension?`: its parts.
* `Path.join`, `Path.stripPrefix?`: one path below another, and what remains of it.
-/

namespace XmlAudit.Files

/-- The parts of a path between its slashes, as written. -/
structure Path where
  segments : List String
deriving DecidableEq, Repr, Inhabited

/-- A step of a path. -/
inductive Component where
  | root
  | here
  | up
  | name (s : String)
deriving DecidableEq, Repr

namespace Path

/-- The path that a text spells. -/
def ofText (s : String) : Path := ⟨Text.splitAt '/' s⟩

/-- The path as written. -/
def text (p : Path) : String := "/".intercalate p.segments

instance : ToString Path := ⟨text⟩

/-- A segment that takes no step. -/
def isIdle (s : String) : Bool := s = "" || s = "."

/-- Segments without the last ones that take no step. -/
def trimIdle (segments : List String) : List String :=
  (segments.reverse.dropWhile isIdle).reverse

/-- The segment with which a path starts at the root or at its own place, and the segments after
it. -/
def lead (p : Path) : Option String × List String :=
  match p.segments with
  | "" :: second :: rest => (some "", second :: rest)
  | "." :: rest => (some ".", rest)
  | segments => (none, segments)

/-- The path of a leading segment and the segments after it. -/
def assemble : Option String → List String → Path
  | some "", [] => ⟨["", ""]⟩
  | some l, segments => ⟨l :: segments⟩
  | none, [] => ⟨[""]⟩
  | none, segments => ⟨segments⟩

/-- A path from the root. -/
def isAbsolute (p : Path) : Bool := p.lead.1 = some ""

/-- Whether a path holds a character that no file name may hold. -/
def holdsNul (p : Path) : Bool := p.segments.any (·.toList.contains '\x00')

/-- A path without any segment. -/
def isEmpty (p : Path) : Bool := p.segments.all (· = "") && p.segments.length ≤ 1

/-- The step of a segment that takes one. -/
def step? (s : String) : Option Component :=
  if isIdle s then none else if s = ".." then some .up else some (.name s)

/-- The step of a leading segment. -/
def leadStep (l : String) : Component := if l = "." then .here else .root

/-- The steps that a path takes. -/
def components (p : Path) : List Component :=
  (p.lead.1.map leadStep).toList ++ p.lead.2.filterMap step?

/-- The path without its last step, of which the root and the empty path have none. -/
def parent? (p : Path) : Option Path :=
  match p.lead.1, trimIdle p.lead.2 with
  | some "", [] => none
  | none, [] => none
  | some _, [] => some (ofText "")
  | l, body => some (assemble l (trimIdle body.dropLast))

/-- The name with which a path ends. -/
def fileName? (p : Path) : Option String :=
  match p.components.getLast? with
  | some (.name s) => some s
  | _ => none

/-- What follows the last dot of a name, unless the name starts with that dot. -/
def extensionOf? (name : String) : Option String :=
  match name.toList.reverse.dropWhile (· ≠ '.') with
  | _ :: _ :: _ => some (String.ofList (name.toList.reverse.takeWhile (· ≠ '.')).reverse)
  | _ => none

/-- The extension of the name with which a path ends. -/
def extension? (p : Path) : Option String := p.fileName?.bind extensionOf?

/-- A path from the place of another one; a path from the root stays itself. -/
def join (p q : Path) : Path :=
  if q.isAbsolute then q
  else if p.segments.getLast? = some "" then ⟨p.segments.dropLast ++ q.segments⟩
  else ⟨p.segments ++ q.segments⟩

/-- Segments without the first `n` that take a step. -/
def dropSteps : Nat → List String → List String
  | 0, segments => segments
  | _, [] => []
  | n + 1, s :: rest => if isIdle s then dropSteps (n + 1) rest else dropSteps n rest

/-- What remains of a path after the steps of another one. -/
def stripPrefix? (p base : Path) : Option Path :=
  let steps := base.components.length
  if base.components.isPrefixOf p.components then
    if steps = 0 then some (assemble p.lead.1 (trimIdle p.lead.2))
    else
      let rest := dropSteps (steps - p.lead.1.toList.length) p.lead.2
      some (assemble none (trimIdle (rest.dropWhile isIdle)))
  else none

/-- A path below another one, given by a text. -/
def child (p : Path) (s : String) : Path := p.join (ofText s)

/-- The order of paths by their steps' names. -/
def le (p q : Path) : Bool :=
  !q.segments.lex p.segments fun a b => a.toList.lex b.toList fun c d => c.toNat < d.toNat

end Path

end XmlAudit.Files
