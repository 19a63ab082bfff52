import XmlAudit.Files.Path
import XmlAudit.Location

/-!
# Profiles

* `Profile`: what is checked for which types of input, and how the outcome is reported.
* `Profile.adHoc`: the profile of a run without configuration.
-/

namespace XmlAudit

open Files (Path)

/-- Whether a request may bring artifacts of its own. -/
inductive ExternalSupport where
  | none
  | allowed
  | required
deriving DecidableEq, Repr, Inhabited

/-- Where the artifacts of one kind come from for one type of input: a bundled file or directory,
addresses, and the request. A stylesheet may be applied to them first. -/
structure ArtifactSource where
  localPath : Option Path
  remote : List String
  external : ExternalSupport
  preprocessor : Option Path
  outputExtension : Option String
deriving DecidableEq, Repr, Inhabited

/-- No artifacts. -/
def ArtifactSource.empty : ArtifactSource := ⟨none, [], .none, none, none⟩

/-- What is checked for which types of input, and how the outcome is reported. -/
structure Profile where
  name : String
  types : List String
  schemas : List (String × ArtifactSource)
  rules : List (String × ArtifactSource)
  /-- Types whose rules are not applied after a schema found errors. -/
  stopTypes : List String
  includeTest : Bool
  includeAssertionId : Bool
  ordered : Bool
  locationAsPath : Bool
  showLocationPaths : Bool
  echoInput : Bool
  /-- Which file stands for a remote address. -/
  mappings : List (String × Path)
  schemaExtensions : List String
  ruleExtensions : List String
deriving DecidableEq, Repr, Inhabited

namespace Profile

/-- The profile with no types and the usual settings. -/
def usual : Profile :=
  ⟨"", [], [], [], [], true, true, false, false, false, false, [], ["xsd"], ["sch", "xsl", "xslt"]⟩

/-- The profile for one type whose artifacts come with the request. -/
def adHoc (type : String) : Profile :=
  let fromRequest : List (String × ArtifactSource) :=
    [(type, { ArtifactSource.empty with external := .allowed })]
  { usual with name := "ad-hoc", types := [type], schemas := fromRequest, rules := fromRequest }

variable (p : Profile)

/-- Whether a profile covers a type. -/
def supports (type : String) : Bool := p.types.contains type

/-- The type that is meant where none is named. -/
def defaultType? : Option String := p.types.head?

/-- Whether the rules for a type are not applied after a schema found errors. -/
def stopsOnSchemaErrors (type : String) : Bool := p.stopTypes.contains type

/-- How the places of findings are reported. -/
def locationPolicy : Location.Policy := ⟨p.locationAsPath, p.showLocationPaths⟩

end Profile

end XmlAudit
