import XmlAudit.Error
import XmlAudit.Remote.CachePath
import XmlAudit.Remote.Reference

/-!
# Copies of remote files

Files that come over the net are kept below a root directory, apart by profile, type and kind. A
copy that is found there is not fetched again, and a fetch that fails leaves no file behind.

* `Network`: what is answered to a request, in view of the requests before it.
* `Session`: the files on disk, the requests made and the copies known to be there.
* `Store.fetchInto`, `Store.fetchArtifact`: the copy of one file.
* `Store.fetchSchema`: the copies of a schema and of all schemas that it brings in.
-/

namespace XmlAudit.Remote

open Files (Path FileTree Component)

/-- What is answered to a request for an address, given the addresses asked for before, the latest
first. -/
structure Network where
  answer : (asked : List String) → (url : String) → Except AuditError (List UInt8)

/-- The state between requests: the files, the addresses asked for, the latest first, and the copies
that are known to be there. -/
structure Session where
  files : FileTree
  asked : List String
  held : List (List Component)

/-- The state before any request. -/
def Session.start (files : FileTree) : Session := ⟨files, [], []⟩

/-- The state in which nothing is known of the copies that are there. -/
def Session.restart (s : Session) : Session := { s with held := [] }

/-- What changes the state and may fail, in which case the changes before stay. -/
abbrev Step := ExceptT AuditError (StateM Session)

/-- The directory of copies and where they come from; references of schemas are followed for some
number of rounds. -/
structure Store where
  root : Path
  network : Network
  rounds : Nat

/-- A schema whose copy is there, with the directory of the copies of what it brings in. -/
structure CachedSchema where
  url : String
  path : Path
  directory : Path
deriving DecidableEq, Repr

/-- More rounds than any search for schemas takes. -/
def manyRounds : Nat := UInt64.size

/-- A file with some content, the directories on the way made first. They stay where the file cannot
be written. -/
def place (t : FileTree) (p : Path) (content : List UInt8) : Except Files.Fault Unit × FileTree :=
  match (p.parent?.map t.prepare).getD (.ok (), t) with
  | (.error f, t) => (.error f, t)
  | (.ok (), t) =>
    match t.write p content with
    | .error f => (.error f, t)
    | .ok t => (.ok (), t)

namespace Store

variable (c : Store)

/-- The directory of the copies for a profile, a type and a kind. -/
def directory (profile type kind : String) : Path :=
  ((c.root.child profile).child type).child kind

/-- The answer to a request. -/
def ask (url : String) : Step (List UInt8) := do
  let s ← get
  set { s with asked := url :: s.asked }
  MonadExcept.ofExcept (c.network.answer s.asked url)

/-- The content is written to a file. -/
def save (p : Path) (content : List UInt8) : Step Unit := do
  let s ← get
  let placed := place s.files p content
  set { s with files := placed.2 }
  MonadExcept.ofExcept (placed.1.mapError .ofFile)

/-- A copy is known to be there. -/
def hold (p : Path) : Step Unit := modify fun s => { s with held := p.components :: s.held }

/-- The place of the copy of an address in a directory. -/
def target (url : String) (dir : Path) : Path := dir.join (cachePath url)

/-- **The copy of a file in a directory,** fetched unless it is there. -/
def fetchInto (url : String) (dir : Path) : Step Path := do
  let p := target url dir
  let s ← get
  if !s.held.contains p.components then
    if !s.files.isFile p then
      try save p (← c.ask url)
      catch e => throw (.ofCache (.write url e.message))
    hold p
  return p

/-- The copy of an artifact. -/
def fetchArtifact (profile type kind url : String) : Step Path :=
  c.fetchInto url (c.directory profile type kind)

/-- The content of a copy. -/
def content (p : Path) : Step (List UInt8) := do
  let s ← get
  match s.files.read p with
  | .ok bytes => return bytes
  | .error f => throw (.ofCache (.read p.text f.message))

/-- The addresses found so far with one more, unless a file stands for it or it is among them. -/
def discover (mappings : List (String × Path)) (found : List String) (url : String) :
    List String :=
  if (mappings.lookup url).isSome || found.contains url then found else found ++ [url]

/-- The references of schemas are followed, round by round: those that the last round found are
fetched, and what they bring in is found next. -/
def follow (dir : Path) (mappings : List (String × Path)) :
    (rounds : Nat) → (found : List String) → (latest : List (String × Path)) → Step Unit
  | _, _, [] => return
  | 0, _, (url, _) :: _ => throw (.ofCache (.read url "too many rounds of references"))
  | n + 1, found, latest => do
    let links ← latest.mapM fun l => return webReferences l.1 (← content l.2)
    let found' := links.flatten.foldl (discover mappings) found
    let next ← (found'.drop found.length).mapM fun url => return (url, ← c.fetchInto url dir)
    follow dir mappings n found' next

/-- **The copies of a schema and of all schemas that it brings in.** A file that stands for an
address is not looked into. -/
def fetchSchema (profile type kind url : String) (mappings : List (String × Path)) :
    Step CachedSchema := do
  let dir := c.directory profile type kind
  match mappings.lookup url with
  | some file => return ⟨url, file, dir⟩
  | none =>
    let p ← c.fetchInto url dir
    c.follow dir mappings c.rounds [url] [(url, p)]
    return ⟨url, p, dir⟩

end Store

end XmlAudit.Remote
