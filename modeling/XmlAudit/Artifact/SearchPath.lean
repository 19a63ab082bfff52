import XmlAudit.Files.Tree
import XmlAudit.Remote.CachePath

/-!
# Where references of an artifact are looked up

Schemas import and stylesheets include other files. Such a file is looked for at the place that the
reference names, then under the directory of the artifact, that of the artifacts given with the
request, and that of the copies of remote files.

* `SearchPath`: the directories of an artifact.
* `SearchPath.resolve?`: the file that a reference stands for.
-/

namespace XmlAudit.Artifact

open Files (Path FileTree)

/-- The directories in which the references of an artifact are looked up. A copy of the artifact may
have been made in `loadedFrom`; `mappings` tells which file stands for a remote address. -/
structure SearchPath where
  artifactDir : Path
  loadedFrom : Option Path
  externalDir : Option Path
  importCacheDir : Option Path
  mappings : List (String × Path)
deriving DecidableEq, Repr

/-- Whether a reference is fetched over the net. -/
def isRemote (systemId : String) : Bool :=
  (Text.dropWord "http://".toList systemId.toList).isSome ||
    (Text.dropWord "https://".toList systemId.toList).isSome

/-- The directory that holds a file. -/
def directoryOf (file : Path) : Path := file.parent?.getD (Path.ofText ".")

namespace SearchPath

/-- The search path with the directory of an artifact only. -/
def ofDirectory (dir : Path) : SearchPath := ⟨dir, none, none, none, []⟩

/-- The search path of an artifact. -/
def ofArtifact (file : Path) : SearchPath := ofDirectory (directoryOf file)

variable (s : SearchPath) (t : FileTree)

/-- The directories under which files are looked for, in order. -/
def directories : List Path := s.artifactDir :: s.externalDir.toList ++ s.importCacheDir.toList

/-- The file of a relative path under the first directory that has one. -/
def findUnder? (candidate : Path) : Option Path :=
  if candidate.isAbsolute then none
  else (s.directories.map (·.join candidate)).find? t.isFile

/-- What remains of a path below the directory of the artifact or of its copy, if anything does. -/
def remainder? (p : Path) : Option Path :=
  ((s.artifactDir :: s.loadedFrom.toList).findSome? p.stripPrefix?).filter (!·.isEmpty)

/-- The file that a remote address stands for. -/
def resolveRemote? (url : String) : Option Path :=
  ((s.mappings.lookup url).filter t.isFile).or
    ((s.importCacheDir.map (·.join (Remote.cachePath url))).filter t.isFile)

/-- The path that a local reference spells. -/
def localPath (systemId : String) : Path :=
  Path.ofText (((Text.dropWord "file://".toList systemId.toList).map String.ofList).getD systemId)

/-- The file that a local path stands for: itself, or else one under the directories of what remains
of the path, or else of its last name. -/
def resolveLocal? (p : Path) : Option Path :=
  if t.isFile p then some p
  else
    ((s.remainder? p).toList ++ (p.fileName?.map Path.ofText).toList).findSome? (s.findUnder? t)

/-- The file that a reference stands for. -/
def resolve? (systemId : String) : Option Path :=
  if isRemote systemId then s.resolveRemote? t systemId else s.resolveLocal? t (localPath systemId)

end SearchPath

end XmlAudit.Artifact
