import XmlAudit.Artifact.SearchPath
import XmlAudit.Error
import XmlAudit.Profile
import XmlAudit.Text.Case

/-!
# Artifacts

An artifact is a file that inputs are checked against: a schema or a set of rules.

* `Artifact`: a file with the search path for its references.
* `Supplied`: what a request brings along, a file or an unpacked archive.
* `checkSupport`: whether a request may or must bring artifacts.
* `filesIn`, `Supplied.files`: the files of a directory and of an archive.
-/

namespace XmlAudit

open Files (Path FileTree)

namespace Artifact

/-- What an artifact is for. -/
inductive Kind where
  | schema
  | ruleSet
deriving DecidableEq, Repr, Inhabited

/-- The name of a kind in messages and in the directories of the cache. -/
def Kind.name : Kind → String
  | schema => "schema"
  | ruleSet => "schematron"

/-- Where the artifacts of a kind for a type come from under a profile, if there are any. -/
def Kind.source? (k : Kind) (p : Profile) (type : String) : Option ArtifactSource :=
  match k with
  | schema => p.schemas.lookup type
  | ruleSet => p.rules.lookup type

/-- The extensions of files of a kind that a profile takes from directories. -/
def Kind.extensions (k : Kind) (p : Profile) : List String :=
  match k with
  | schema => p.schemaExtensions
  | ruleSet => p.ruleExtensions

/-- Where an artifact comes from. -/
inductive Provenance where
  | bundled
  | supplied
  | remote
deriving DecidableEq, Repr, Inhabited

end Artifact

/-- A file that inputs are checked against. -/
structure Artifact where
  path : Path
  kind : Artifact.Kind
  provenance : Artifact.Provenance
  search : Artifact.SearchPath
deriving DecidableEq, Repr

namespace Artifact

/-- The extension of a file in small letters. -/
def extensionOf? (p : Path) : Option String := p.extension?.map Text.asciiLowercase

/-- The extension of an artifact in small letters. -/
def extension? (a : Artifact) : Option String := extensionOf? a.path

/-- Whether the extension of a file is among some, letter case aside. -/
def hasExtension (accepted : List String) (p : Path) : Bool :=
  (extensionOf? p).any fun e => accepted.any fun a => Text.asciiLowercase a = e

/-- The files right inside a directory, in order. -/
def filesIn (t : FileTree) (directory : Path) : Except Files.Fault (List Path) := do
  let k ← t.locate directory
  return ((← t.names directory).filter fun s => t.holdsFile (k ++ [s])).map directory.child

/-- What a request brings along. -/
inductive Supplied where
  | file (path : Path)
  | unpacked (directory : Path)
deriving DecidableEq, Repr, Inhabited

namespace Supplied

/-- What is at a path: a directory stands for an unpacked archive. -/
def ofPath (t : FileTree) (p : Path) : Supplied := if t.isDirectory p then unpacked p else file p

/-- The path at which it is. -/
def path : Supplied → Path
  | file p => p
  | unpacked d => d

/-- Whether it is an unpacked archive. -/
def isUnpacked : Supplied → Bool
  | file _ => false
  | unpacked _ => true

/-- The directory in which its references are looked up. -/
def directory : Supplied → Path
  | file p => directoryOf p
  | unpacked d => d

/-- The files of some kind that it brings along. An archive holds one schema and nothing else, but
any number of rule sets, known by their extensions. -/
def files (t : FileTree) (k : Kind) (accepted : List String) :
    Supplied → Except AuditError (List Path)
  | file p => .ok [p]
  | unpacked d => do
    let all ← (filesIn t d).mapError .ofFile
    match k with
    | .schema => if all.length = 1 then return all else throw (.ambiguousArchive d all.length)
    | .ruleSet => return all.filter (hasExtension accepted)

end Supplied

/-- Whether a request may bring what it brings, and brings what it must. -/
def checkSupport (source : Option ArtifactSource) (k : Kind) (external : List Supplied) :
    Except AuditError Unit :=
  match (source.map (·.external)).getD .none, external with
  | .none, _ :: _ => .error (.externalArtifact k.name "not supported for this validation type")
  | .required, [] =>
    .error (.externalArtifact k.name "required for this validation type but none were provided")
  | _, _ => .ok ()

/-- The files of some kind at a bundled path: the file itself, or those of a directory that have an
accepted extension. -/
def bundledFiles (t : FileTree) (accepted : List String) (p : Path) :
    Except Files.Fault (List Path) := do
  match ← t.entry p with
  | .file _ => return [p]
  | .directory => return (← filesIn t p).filter (hasExtension accepted)

end Artifact

end XmlAudit
