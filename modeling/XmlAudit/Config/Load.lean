import XmlAudit.CommandLine
import XmlAudit.Config.Record
import XmlAudit.Data.JsonText
import XmlAudit.Data.TomlText
import XmlAudit.Error
import XmlAudit.Url.Parse

/-!
# Loading a configuration

The settings come from a file, then from the environment, then from the command line.

* `Config.load`: the settings of a run.
* `Config.check`: whether settings can be used.
* `Config.anchored`: relative paths made to start at the resource root.
* `Config.select`: the profile of a name.
-/

namespace XmlAudit

open Files (Path FileTree)

/-- What a run sees of its surroundings: the files, the directories for settings and for caches, and
the variables. -/
structure Surroundings where
  files : FileTree
  configHome : Option Path
  cacheHome : Path
  environment : List (String × String)

namespace Config

/-- Settings in which each profile without a name is named by its key. -/
def named (c : Config) : Config :=
  { c with
    profiles := c.profiles.mapValues fun key p =>
      if p.name = "" then { p with name := key } else p }

/-- The settings of a TOML text. -/
def ofToml (usual : Config) (s : String) : Except ConfigFault Config :=
  match (Data.parseToml? s).bind (ofData? .toml usual) with
  | some c => .ok c
  | none => .error (.tomlParsing "")

/-- The settings of a JSON text. -/
def ofJson (usual : Config) (s : String) : Except ConfigFault Config :=
  match (Data.parseJson? s).bind (ofData? .json usual) with
  | some c => .ok c
  | none => .error (.jsonParsing "")

/-- The settings of a text in the notation that an extension tells; without one, either may be. -/
def ofText (usual : Config) (extension : Option String) (s : String) : Except ConfigFault Config :=
  match extension with
  | some "toml" => ofToml usual s
  | some "json" => ofJson usual s
  | some other => .error (.unsupportedFormat other)
  | none =>
    match ofToml usual s with
    | .ok c => .ok c
    | .error _ => ofJson usual s

/-- The settings of a file. -/
def ofFile (usual : Config) (t : FileTree) (p : Path) : Except ConfigFault Config := do
  let bytes ← (t.read p).mapError (.io ·.message)
  match Text.Utf8.decode? bytes with
  | none => throw (.io "stream did not contain valid UTF-8")
  | some cs => return (← ofText usual p.extension? (String.ofList cs)).named

/-- The names under which a file of settings is looked for. -/
def fileNames : List String :=
  [programName ++ ".toml", programName ++ ".json", "." ++ programName ++ ".toml",
    "." ++ programName ++ ".json"]

/-- The places in which a file of settings is looked for. -/
def filePlaces (e : Surroundings) : List Path :=
  fileNames.map Path.ofText ++
    match e.configHome with
    | some home => fileNames.map ((home.child programName).child ·)
    | none => []

/-- The first file of settings that there is. -/
def findFile? (e : Surroundings) : Option Path :=
  (filePlaces e).find? fun p => (e.files.entry p).toOption.isSome

/-- Settings under others: all but the profiles are replaced. -/
def merge (c later : Config) : Config := { later with profiles := c.profiles.extend later.profiles }

/-- The full name of a variable that changes settings. -/
def variableName (name : String) : String := "XML_CONFORMANCE_" ++ name

/-- The fault of a variable with a value that cannot be used. -/
def badVariable (name value : String) : ConfigFault :=
  .environment ("Invalid " ++ variableName name ++ " value: " ++ value)

/-- Settings changed by a variable, if it has a value. -/
def override (environment : List (String × String)) (name : String)
    (change : Config → String → Option Config) (c : Config) : Except ConfigFault Config :=
  match environment.lookup (variableName name) with
  | none => .ok c
  | some value =>
    match change c value with
    | some c => .ok c
    | none => .error (badVariable name value)

/-- What each variable changes, in the order in which they are looked at. -/
def overrides : List (String × (Config → String → Option Config)) := [
  ("CACHE_DIR", fun c s => some { c with cache.directory := .ofText s }),
  ("DISABLE_TRANSFORM_CACHE", fun c s =>
    if s = "true" then some { c with cache.disableTransforms := true }
    else if s = "false" then some { c with cache.disableTransforms := false }
    else none),
  ("RESOURCE_ROOT", fun c s => some { c with resourceRoot := .ofText s }),
  ("TIMEOUT", fun c s => (decimalBelow? UInt64.size s).map fun n =>
    { c with network.timeoutSeconds := .ofNat n }),
  ("RETRY_ATTEMPTS", fun c s => (decimalBelow? UInt32.size s).map fun n =>
    { c with network.retryAttempts := .ofNat n }),
  ("LOCALE", fun c s => some { c with output.locale := s }),
  ("FORMAT", fun c s => (Format.ofName? (Text.lowercase s)).map fun f =>
    { c with output.format := f })]

/-- Settings changed by the variables. -/
def withVariables (c : Config) (environment : List (String × String)) : Except ConfigFault Config :=
  overrides.foldlM (fun c o => override environment o.1 o.2 c) c

/-- Settings changed by the command line. -/
def withOptions (c : Config) (o : Options) : Config :=
  { c with
    cache.directory := o.cacheDir.getD c.cache.directory
    cache.disableTransforms := o.disableTransforms || c.cache.disableTransforms
    network.timeoutSeconds := o.timeout.getD c.network.timeoutSeconds
    output.format := o.format.getD c.output.format
    output.locale := o.locale.getD c.output.locale
    output.verbose := if o.verbose || o.quiet then o.verbose else c.output.verbose
    output.quiet := if o.verbose || o.quiet then o.quiet else c.output.quiet }

/-- The fault with a wording, if a condition holds. -/
def refuseIf (bad : Bool) (details : String) : Except ConfigFault Unit :=
  if bad then .error (.validation details) else .ok ()

/-- An extension that no file name ends in. -/
def isBadExtension (s : String) : Bool :=
  s = "" || s.toList.any fun c => c = '/' || c = '\\' || c = '.'

/-- Whether a profile can be used: it covers all types that it mentions, and its addresses and
extensions are such. -/
def checkProfile (name : String) (p : Profile) : Except ConfigFault Unit := do
  refuseIf p.types.isEmpty ("Profile " ++ name ++ " declares no validation types")
  for type in p.schemas.map (·.1) ++ p.rules.map (·.1) ++ p.stopTypes do
    refuseIf (!p.supports type)
      ("Profile " ++ name ++ " configures unknown validation type " ++ type)
  for source in p.schemas.map (·.2) ++ p.rules.map (·.2) do
    for address in source.remote do
      match Url.parse address with
      | .ok _ => pure ()
      | .error f =>
        refuseIf true ("Profile " ++ name ++ " has an invalid remote artifact URL " ++ address ++
          ": " ++ f.message)
  for extension in p.schemaExtensions ++ p.ruleExtensions do
    refuseIf (isBadExtension extension) ("Invalid file extension: " ++ extension)

/-- Whether settings can be used. -/
def check (c : Config) : Except ConfigFault Unit := do
  refuseIf (c.cache.maxTransforms = 0) "Transform cache size must be greater than 0"
  refuseIf (c.network.timeoutSeconds = 0) "Timeout must be greater than 0"
  refuseIf (c.network.retryAttempts > 10) "Retry attempts cannot exceed 10"
  refuseIf (c.output.verbose && c.output.quiet) "Cannot enable both verbose and quiet modes"
  refuseIf (Text.trim c.output.locale = "") "Locale must not be empty"
  for (name, profile) in c.profiles do
    checkProfile name profile

/-- Artifacts whose relative paths start at a directory. -/
def anchorSource (root : Path) (s : ArtifactSource) : ArtifactSource :=
  { s with localPath := s.localPath.map root.join, preprocessor := s.preprocessor.map root.join }

/-- A profile whose relative paths start at a directory. -/
def anchorProfile (root : Path) (p : Profile) : Profile :=
  let anchorAll := Table.mapValues fun _ => anchorSource root
  { p with
    schemas := anchorAll p.schemas
    rules := anchorAll p.rules
    mappings := Table.mapValues (fun _ => root.join) p.mappings }

/-- Settings in which the relative paths of profiles start at the resource root. -/
def anchored (c : Config) : Config :=
  { c with profiles := c.profiles.mapValues fun _ => anchorProfile c.resourceRoot }

/-- The settings of the file that the command line names, or of the one that is found. -/
def fromFiles (e : Surroundings) (o : Options) : Except ConfigFault Config := do
  let usual := usual e.cacheHome
  match o.config.or (findFile? e) with
  | some p => return usual.merge (← ofFile usual e.files p)
  | none => return usual

/-- The settings of a run. -/
def load (e : Surroundings) (o : Options) : Except ConfigFault Config := do
  let c := (← (← fromFiles e o).withVariables e.environment).withOptions o
  c.check
  return c.anchored

/-- The profile of a name, or the only one. -/
def select (c : Config) (name : Option String) : Except ConfigFault Profile :=
  match name, c.profiles with
  | some name, ps =>
    match ps.lookup name with
    | some p => .ok p
    | none => .error (.unknownProfile name)
  | none, [(_, p)] => .ok p
  | none, [] => .error (.unknownProfile "no profiles are configured")
  | none, ps =>
    .error (.validation ("Several profiles are configured (" ++ ", ".intercalate (ps.map (·.1)) ++
      "); select one with --profile"))

end Config

end XmlAudit
