import XmlAudit.Artifact.Basic
import XmlAudit.Artifact.CompiledCache
import XmlAudit.Processor
import XmlAudit.Remote.Store

/-!
# Which artifacts are applied

The artifacts of a kind are those that the profile bundles or, if it bundles none, fetches; those
that the request brings along follow. A profile may have them run through a stylesheet first.

* `Workspace`: the state of a run: files, copies of remote files, compiled stylesheets.
* `Resolver.resolve`: the artifacts of a kind for a type, in the order in which they are applied.
-/

namespace XmlAudit

open Files (Path FileTree)

/-- The state of a run: files and copies of remote files, and what stylesheets were compiled to. -/
structure Workspace (Sheet : Type) where
  session : Remote.Session
  sheets : Artifact.CompiledCache Sheet

/-- The files of a state. -/
def Workspace.files (w : Workspace Sheet) : FileTree := w.session.files

/-- The state with other files. -/
def Workspace.withFiles (w : Workspace Sheet) (t : FileTree) : Workspace Sheet :=
  { w with session := { w.session with files := t } }

/-- What changes the state of a run and may fail, in which case the changes before stay. -/
abbrev Task (Sheet : Type) := ExceptT AuditError (StateM (Workspace Sheet))

namespace Task

variable {Sheet : Type}

/-- What concerns remote files only. -/
def ofStep (m : Remote.Step α) : Task Sheet α := fun w =>
  let r := m w.session
  (r.1, { w with session := r.2 })

/-- What looks at the files only. -/
def ofFiles (f : FileTree → Except AuditError α) : Task Sheet α := fun w => (f w.files, w)

/-- A change of the files. -/
def changeFiles (f : FileTree → Except Files.Fault FileTree) : Task Sheet Unit := fun w =>
  match f w.files with
  | .ok t => (.ok (), w.withFiles t)
  | .error e => (.error (.ofFile e), w)

/-- The compiled form of a stylesheet, kept for the next time. -/
def sheet (k : Processor Sheet) (stylesheet : Path) (search : Path → Artifact.SearchPath) :
    StateM (Workspace Sheet) (Except ProcessorFault Sheet) := fun w =>
  let r := w.sheets.get w.files stylesheet fun p => k.sheet w.files (search p) p
  (r.1, { w with sheets := r.2 })

end Task

namespace Artifact

/-- What finds the artifacts of requests. -/
structure Resolver (Sheet : Type) where
  store : Remote.Store
  processor : Processor Sheet

namespace Resolver

variable {Sheet : Type} (r : Resolver Sheet)

/-- The search path of a file among the artifacts of a request. -/
def searchPath (p : Profile) (externalDir importCacheDir : Option Path) (file : Path) :
    SearchPath :=
  { SearchPath.ofArtifact file with
    externalDir := externalDir
    importCacheDir := importCacheDir
    mappings := p.mappings }

/-- The copy of a remote artifact. Schemas come with all schemas that they bring in. -/
def fetch (p : Profile) (type : String) (k : Kind) (externalDir : Option Path) (url : String) :
    Remote.Step Artifact := do
  match k with
  | .schema =>
    let c ← r.store.fetchSchema p.name type k.name url p.mappings
    return ⟨c.path, k, .remote, searchPath p externalDir (some c.directory) c.path⟩
  | .ruleSet =>
    let file ← r.store.fetchArtifact p.name type k.name url
    return ⟨file, k, .remote, searchPath p externalDir none file⟩

/-- The artifacts of a profile itself: the bundled ones or, if there are none, the remote ones. -/
def own (p : Profile) (type : String) (k : Kind) (externalDir : Option Path)
    (source : ArtifactSource) : Task Sheet (List Artifact) := do
  match source.localPath with
  | some bundled =>
    let files ← Task.ofFiles fun t => (bundledFiles t (k.extensions p) bundled).mapError .ofFile
    return files.map fun f => ⟨f, k, .bundled, searchPath p externalDir none f⟩
  | none => source.remote.mapM fun url => Task.ofStep (r.fetch p type k externalDir url)

/-- The artifacts of one thing that a request brings along. -/
def brought (p : Profile) (k : Kind) (s : Supplied) : Task Sheet (List Artifact) := do
  let files ← Task.ofFiles fun t => s.files t k (k.extensions p)
  return files.map fun f => ⟨f, k, .supplied, searchPath p (some s.directory) none f⟩

/-- The path of the changed copy of an artifact, given a number. -/
def copyPath (workDir : Path) (source : ArtifactSource) (number : Nat) (a : Artifact) : Path :=
  let extension := (source.outputExtension.or a.extension?).getD "xml"
  workDir.child (a.kind.name ++ "-" ++ toString number ++ "." ++ extension)

/-- The copy of an artifact that a stylesheet makes of it. What the copy refers to is looked up from
the place of the artifact. -/
def preprocess (stylesheet copy workDir : Path) (a : Artifact) : Task Sheet Artifact := do
  let refuse (f : ProcessorFault) : AuditError := .invalidTransform a.path f.message
  let content ← Task.ofFiles fun t => (t.read a.path).mapError .ofFile
  let sheet ← MonadExcept.ofExcept
    ((← ExceptT.lift (Task.sheet r.processor stylesheet .ofArtifact)).mapError refuse)
  let changed ← Task.ofFiles fun t => (r.processor.apply t a.search sheet content).mapError refuse
  Task.changeFiles (·.write copy changed)
  return { a with path := copy, search := { a.search with loadedFrom := some workDir } }

/-- Artifacts after the stylesheet that the profile has them run through, if any. -/
def preprocessed (source : Option ArtifactSource) (workDir : Path) (artifacts : List Artifact) :
    Task Sheet (List Artifact) := do
  match source.bind fun s => s.preprocessor.map (s, ·) with
  | none => return artifacts
  | some (s, stylesheet) =>
    artifacts.zipIdx.mapM fun a =>
      r.preprocess stylesheet (copyPath workDir s a.2 a.1) workDir a.1

/-- **The artifacts of a kind for a type,** in the order in which they are applied. -/
def resolve (p : Profile) (type : String) (k : Kind) (external : List Supplied) (workDir : Path) :
    Task Sheet (List Artifact) := do
  let source := k.source? p type
  MonadExcept.ofExcept (checkSupport source k external)
  let ours ← match source with
    | some s => r.own p type k (external.head?.map (·.directory)) s
    | none => pure []
  let theirs ← external.mapM (brought p k)
  r.preprocessed source workDir (ours ++ theirs.flatten)

end Resolver

end Artifact

end XmlAudit
