import XmlAudit.Config.Basic
import XmlAudit.Data.Basic

/-!
# Configurations as data

* `Profile.ofData?`, `Profile.toData`: a profile as a record, in which every key may be missing.
* `Config.ofData?`, `Config.toData`: the settings of a run as a record.
-/

namespace XmlAudit

open Data (text? boolean? natBelow? list? table? choice? record?)
open Files (Path)

/-- The path that data is. -/
def path? (d : Data) : Option Path := (text? d).map Path.ofText

/-- A path as data. -/
def pathData (p : Path) : Data := .text p.text

/-- A value that may be null as data. -/
def nullable (write : α → Data) (value : Option α) : Data := (value.map write).getD .null

/-- Texts as data. -/
def textsData (ss : List String) : Data := .list (ss.map .text)

/-- A table as data. -/
def tableData (write : α → Data) (t : Table α) : Data := .table (t.map fun e => (e.1, write e.2))

/-- The table that data is. -/
def tableOf? (read : Data → Option α) (d : Data) : Option (Table α) :=
  (table? read d).map Table.ofList

/-- Texts in order, each once. -/
def sortedTexts (ss : List String) : List String :=
  (Table.ofList (ss.map fun s => (s, ()))).map (·.1)

namespace ExternalSupport

/-- The support of a name. -/
def ofName? : String → Option ExternalSupport
  | "none" => some none
  | "optional" => some allowed
  | "required" => some required
  | _ => Option.none

/-- The name of a support. -/
def name : ExternalSupport → String
  | none => "none"
  | allowed => "optional"
  | required => "required"

end ExternalSupport

namespace ArtifactSource

/-- The keys of a record of artifacts. -/
def keys : List String :=
  ["local_path", "remote", "external", "preprocessor", "preprocessor_output_extension"]

/-- The artifacts of a record. -/
def ofData? (n : Notation) (d : Data) : Option ArtifactSource := do
  match ← record? n keys d with
  | [l, r, e, p, x] =>
    let external ← withDefault? .none (fun v => (choice? n v).bind ExternalSupport.ofName?) e
    return ⟨← optional? path? l, ← withDefault? [] (list? text?) r, external,
      ← optional? path? p, ← optional? text? x⟩
  | _ => none

/-- Artifacts as a record. -/
def toData (a : ArtifactSource) : Data :=
  .table (keys.zip [nullable pathData a.localPath, textsData a.remote, .text a.external.name,
    nullable pathData a.preprocessor, nullable .text a.outputExtension])

end ArtifactSource

namespace Profile

/-- The keys of a record of a profile. -/
def keys : List String :=
  ["name", "validation_types", "schema", "schematron", "stop_on_schema_errors", "include_test",
    "include_assertion_id", "reports_ordered", "location_as_path", "show_location_paths",
    "add_input_to_report", "remote_import_mappings", "accepted_schema_extensions",
    "accepted_schematron_extensions"]

/-- The profile of a record. -/
def ofData? (n : Notation) (d : Data) : Option Profile := do
  match ← record? n keys d with
  | [name, ts, s, r, st, it, ia, o, lp, sp, e, m, se, re] =>
    let texts := list? text?
    let sources := tableOf? (ArtifactSource.ofData? n)
    return {
      name := ← withDefault? usual.name text? name
      types := ← withDefault? usual.types texts ts
      schemas := ← withDefault? usual.schemas sources s
      rules := ← withDefault? usual.rules sources r
      stopTypes := sortedTexts (← withDefault? usual.stopTypes texts st)
      includeTest := ← withDefault? usual.includeTest boolean? it
      includeAssertionId := ← withDefault? usual.includeAssertionId boolean? ia
      ordered := ← withDefault? usual.ordered boolean? o
      locationAsPath := ← withDefault? usual.locationAsPath boolean? lp
      showLocationPaths := ← withDefault? usual.showLocationPaths boolean? sp
      echoInput := ← withDefault? usual.echoInput boolean? e
      mappings := ← withDefault? usual.mappings (tableOf? path?) m
      schemaExtensions := ← withDefault? usual.schemaExtensions texts se
      ruleExtensions := ← withDefault? usual.ruleExtensions texts re }
  | _ => none

/-- A profile as a record. -/
def toData (p : Profile) : Data :=
  .table (keys.zip [.text p.name, textsData p.types, tableData ArtifactSource.toData p.schemas,
    tableData ArtifactSource.toData p.rules, textsData p.stopTypes, .boolean p.includeTest,
    .boolean p.includeAssertionId, .boolean p.ordered, .boolean p.locationAsPath,
    .boolean p.showLocationPaths, .boolean p.echoInput, tableData pathData p.mappings,
    textsData p.schemaExtensions, textsData p.ruleExtensions])

end Profile

/-- The settings of the caches in a record, over the usual ones. -/
def CacheSettings.ofData? (n : Notation) (usual : CacheSettings) (d : Data) :
    Option CacheSettings := do
  match ← record? n ["directory", "disable_transform_cache", "max_transforms"] d with
  | [dir, off, most] =>
    let most ← withDefault? usual.maxTransforms.toNat (natBelow? UInt64.size) most
    return ⟨← withDefault? usual.directory path? dir,
      ← withDefault? usual.disableTransforms boolean? off, .ofNat most⟩
  | _ => none

/-- The settings of the caches as a record. -/
def CacheSettings.toData (c : CacheSettings) : Data :=
  .table [("directory", pathData c.directory),
    ("disable_transform_cache", .boolean c.disableTransforms),
    ("max_transforms", .integer c.maxTransforms.toNat)]

/-- The settings of the network in a record, over the usual ones. -/
def NetworkSettings.ofData? (n : Notation) (usual : NetworkSettings) (d : Data) :
    Option NetworkSettings := do
  match ← record? n ["timeout_seconds", "retry_attempts", "retry_delay_ms"] d with
  | [timeout, attempts, delay] =>
    let timeout ← withDefault? usual.timeoutSeconds.toNat (natBelow? UInt64.size) timeout
    let attempts ← withDefault? usual.retryAttempts.toNat (natBelow? UInt32.size) attempts
    let delay ← withDefault? usual.retryDelayMs.toNat (natBelow? UInt64.size) delay
    return ⟨.ofNat timeout, .ofNat attempts, .ofNat delay⟩
  | _ => none

/-- The settings of the network as a record. -/
def NetworkSettings.toData (n : NetworkSettings) : Data :=
  .table [("timeout_seconds", .integer n.timeoutSeconds.toNat),
    ("retry_attempts", .integer n.retryAttempts.toNat),
    ("retry_delay_ms", .integer n.retryDelayMs.toNat)]

/-- The settings of the output in a record, over the usual ones. -/
def OutputSettings.ofData? (n : Notation) (usual : OutputSettings) (d : Data) :
    Option OutputSettings := do
  match ← record? n ["format", "verbose", "quiet", "locale"] d with
  | [format, verbose, quiet, locale] =>
    let format ← withDefault? usual.format (fun v => (choice? n v).bind Format.ofName?) format
    return ⟨format, ← withDefault? usual.verbose boolean? verbose,
      ← withDefault? usual.quiet boolean? quiet, ← withDefault? usual.locale text? locale⟩
  | _ => none

/-- The settings of the output as a record. -/
def OutputSettings.toData (o : OutputSettings) : Data :=
  .table [("format", .text o.format.name), ("verbose", .boolean o.verbose),
    ("quiet", .boolean o.quiet), ("locale", .text o.locale)]

namespace Config

/-- The settings of a record, over the usual ones. -/
def ofData? (n : Notation) (usual : Config) (d : Data) : Option Config := do
  match ← record? n ["cache", "network", "resources", "output", "profiles"] d with
  | [c, net, r, o, ps] =>
    let root (v : Data) : Option Path := do
      withDefault? usual.resourceRoot path? (← (← record? n ["root"] v).head?)
    return {
      cache := ← withDefault? usual.cache (CacheSettings.ofData? n usual.cache) c
      network := ← withDefault? usual.network (NetworkSettings.ofData? n usual.network) net
      resourceRoot := ← withDefault? usual.resourceRoot root r
      output := ← withDefault? usual.output (OutputSettings.ofData? n usual.output) o
      profiles := ← withDefault? [] (tableOf? (Profile.ofData? n)) ps }
  | _ => none

/-- The settings of a run as a record. -/
def toData (c : Config) : Data :=
  .table [("cache", c.cache.toData), ("network", c.network.toData),
    ("resources", .table [("root", pathData c.resourceRoot)]), ("output", c.output.toData),
    ("profiles", tableData Profile.toData c.profiles)]

end Config

end XmlAudit
