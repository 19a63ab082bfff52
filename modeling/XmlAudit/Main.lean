import XmlAudit.Program

/-!
# The command line

The program works on a snapshot of the files that a run may touch: those in the directories of what
the arguments and the profiles name, and the cache. What the run changes is written back.

The host has no net and no processor of schemas and stylesheets.
-/

namespace XmlAudit.Console

open Files (Path FileTree Place)

/-- How many directories deep a snapshot goes. -/
def depth : Nat := 8

/-- A place as the system takes it. -/
def diskName (k : Place) : String := (Place.path k).text

/-- The place that a path spells. -/
def placeOf (here : Place) (p : Path) : Place :=
  p.segments.foldl (fun k s =>
    if Path.isIdle s then k else if s = ".." then k.dropLast else k ++ [s])
    (if p.isAbsolute then [] else here)

/-- The snapshot with what is at a place, some directories deep. -/
def load : Nat → FileTree → Place → IO FileTree
  | depth, t, k => do
    let onDisk := System.mkFilePath [diskName k]
    if ← onDisk.isDir then
      let t := t.set k (some .directory)
      match depth with
      | 0 => return t
      | d + 1 => (← onDisk.readDir).foldlM (fun t e => load d t (k ++ [e.fileName])) t
    else if ← onDisk.pathExists then
      return t.set k (some (.file (← IO.FS.readBinFile onDisk).toList))
    else return t

/-- The snapshot with all that is at and below a place, and with the directories on the way. -/
def loadBelow (t : FileTree) (k : Place) : IO FileTree :=
  load depth ((List.range k.length).foldl (fun t n => t.set (k.take n) (some .directory)) t) k

/-- The snapshot with all that is in the directory of a place. -/
def loadAround (t : FileTree) (k : Place) : IO FileTree := loadBelow t k.dropLast

/-- The paths that arguments name. -/
def argumentPaths (o : Options) : List Path :=
  o.inputs ++ o.schemas ++ o.ruleSets ++ o.config.toList ++ o.outputDir.toList

/-- The paths that the profiles of a configuration name. -/
def profilePaths (c : Config) : List Path :=
  c.profiles.flatMap fun e =>
    (e.2.schemas ++ e.2.rules).flatMap (fun s => s.2.localPath.toList ++ s.2.preprocessor.toList) ++
      e.2.mappings.map (·.2)

/-- The directory that a variable of the system or else a name in the home directory tells. -/
def homeDirectory (setting name : String) : IO (Option Path) := do
  match ← IO.getEnv setting with
  | some s => return some (.ofText s)
  | none => return (← IO.getEnv "HOME").map fun home => (Path.ofText home).child name

/-- The variables that change settings, with their values. -/
def settingVariables : IO (List (String × String)) := do
  let names := Config.overrides.map fun o => Config.variableName o.1
  return (← names.mapM fun name => return (← IO.getEnv name).map (name, ·)).filterMap id

/-- The time by the clock of the file system. -/
def clock : IO Time.Instant := do
  let (_, file) ← IO.FS.createTempFile
  let written := (← file.metadata).modified
  IO.FS.removeFile file
  return .ofSeconds written.sec.toNat written.nsec.toNat

/-- What a run sees of its surroundings. -/
def surroundings (args : List String) : IO Surroundings := do
  let here := placeOf [] (.ofText (← IO.currentDir).toString)
  let configHome ← homeDirectory "XDG_CONFIG_HOME" ".config"
  let cacheHome := (← homeDirectory "XDG_CACHE_HOME" ".cache").getD (.ofText ".cache")
  let environment ← settingVariables
  let start := FileTree.empty here
  match Options.parse args with
  | .error _ => return ⟨start, configHome, cacheHome, environment⟩
  | .ok o =>
    let places := Config.filePlaces ⟨start, configHome, cacheHome, environment⟩
    let t ← places.foldlM (fun t p => load 0 t (placeOf here p)) start
    let t ← (argumentPaths o).foldlM (fun t p => loadAround t (placeOf here p)) t
    match Config.load ⟨t, configHome, cacheHome, environment⟩ o with
    | .error _ => return ⟨t, configHome, cacheHome, environment⟩
    | .ok c =>
      let t ← (profilePaths c).foldlM (fun t p => loadAround t (placeOf here p)) t
      let cache := placeOf here c.cache.directory
      let t ← if ← (System.mkFilePath [diskName cache]).isDir then loadBelow t cache else pure t
      return ⟨t, configHome, cacheHome, environment⟩

/-- Whether a file has some content in a snapshot. -/
def holds (t : FileTree) (k : Place) (content : List UInt8) : Bool :=
  match t.find? k with
  | some (.file c) => c == content
  | _ => false

/-- The files that a run changed are written back. -/
def writeBack (before after : FileTree) : IO Unit :=
  (after.filesBelow []).forM fun f => do
    if !holds before f.1 f.2 then
      IO.FS.createDirAll (diskName f.1.dropLast)
      IO.FS.writeBinFile (diskName f.1) (ByteArray.mk f.2.toArray)

end XmlAudit.Console

open XmlAudit in
/-- The program. -/
def main (args : List String) : IO UInt32 := do
  let started ← IO.monoMsNow
  let s ← Console.surroundings args
  let host : Host Empty :=
    ⟨s, fun _ url => .error (Remote.unreachable url), .absent, .ofText "/", ← Console.clock⟩
  let exit := Program.run host args
  Console.writeBack s.files exit.files
  IO.print (exit.stdout ((← IO.monoMsNow) - started))
  IO.eprint exit.stderr
  return exit.code
