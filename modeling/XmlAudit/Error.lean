import XmlAudit.Files.Tree
import XmlAudit.XPath.Query
import XmlAudit.Xml.Fault

/-!
# What can go wrong in a run

* `AuditError`: the causes, with their wording `AuditError.message`.
* `AuditError.refusesRequest`: the causes that make a whole request fail and not only one artifact.
* `CacheFault`, `ConfigFault`, `ProcessorFault`: the causes in the caches, in the configuration and
  in the processor of schemas and stylesheets.
-/

namespace XmlAudit

open Files (Path)

/-- Why a cached file cannot be used. -/
inductive CacheFault where
  | write (key details : String)
  | read (key details : String)
deriving DecidableEq, Repr

/-- How a fault of the cache is worded. -/
def CacheFault.message : CacheFault → String
  | write key details => "Cache write error: " ++ key ++ " - " ++ details
  | read key details => "Cache read error: " ++ key ++ " - " ++ details

/-- Why a configuration cannot be used. -/
inductive ConfigFault where
  | io (details : String)
  | tomlParsing (details : String)
  | jsonParsing (details : String)
  | validation (details : String)
  | environment (details : String)
  | unsupportedFormat (format : String)
  | unknownProfile (name : String)
deriving DecidableEq, Repr

/-- How a fault of the configuration is worded. -/
def ConfigFault.message : ConfigFault → String
  | io details => "IO error: " ++ details
  | tomlParsing details => "TOML parsing error: " ++ details
  | jsonParsing details => "JSON parsing error: " ++ details
  | validation details => "Configuration validation error: " ++ details
  | environment details => "Environment variable error: " ++ details
  | unsupportedFormat format => "Unsupported configuration file format: " ++ format
  | unknownProfile name => "Unknown profile: " ++ name

/-- Why the processor of schemas and stylesheets fails. -/
inductive ProcessorFault where
  | schemaUnreadable (details : String)
  | noValidationContext
  | validationFailed (code : Int) (file : Path)
  | stylesheetUnreadable (file : Path)
  | transformFailed (details : String)
  | documentUnreadable (details : String)
  | unresolvedReference (systemId : String)
  | unusablePath (path : Path)
deriving DecidableEq, Repr

/-- How a fault of the processor is worded. -/
def ProcessorFault.message : ProcessorFault → String
  | schemaUnreadable details => "Schema parsing failed: " ++ details
  | noValidationContext => "Validation context creation failed"
  | validationFailed code file =>
    "File validation failed with code " ++ toString code ++ ": " ++ file.text
  | stylesheetUnreadable file => "Stylesheet compilation failed: " ++ file.text
  | transformFailed details => "Transformation failed: " ++ details
  | documentUnreadable details => "Document parsing failed: " ++ details
  | unresolvedReference systemId => "Unresolved reference: " ++ systemId
  | unusablePath path => "Path is not representable as a C string: " ++ path.text

/-- What can go wrong in a run. -/
inductive AuditError where
  | io (details : String)
  | http (details : String)
  | httpStatus (url : String) (status : Nat) (reason : String)
  | timeout (url : String) (seconds : Nat)
  | malformedInput (line : Nat) (details : String)
  | unresolvedReference (systemId : String)
  | invalidRuleSet (path : Path) (details : String)
  | invalidTransform (path : Path) (details : String)
  | ruleOutput (details : String)
  | ambiguousArchive (path : Path) (rootFiles : Nat)
  | pathExpression (failure : XPath.Failure)
  | unknownType (name : String)
  | externalArtifact (kind details : String)
  | cache (details : String)
  | serialization (details : String)
  | config (details : String)
  | processor (details : String)
  | concurrency (details : String)
deriving DecidableEq, Repr

namespace AuditError

/-- How an error is worded. -/
def message : AuditError → String
  | io details => "IO error: " ++ details
  | http details => "HTTP error: " ++ details
  | httpStatus url status reason =>
    "HTTP status error: " ++ toString status ++ " for " ++ url ++ " - " ++ reason
  | timeout url seconds => "Request timeout: " ++ url ++ " after " ++ toString seconds ++ " seconds"
  | malformedInput line details => "Malformed input at line " ++ toString line ++ ": " ++ details
  | unresolvedReference systemId => "Unresolved reference: " ++ systemId
  | invalidRuleSet path details => "Invalid rule set: " ++ path.text ++ " - " ++ details
  | invalidTransform path details => "Invalid transform: " ++ path.text ++ " - " ++ details
  | ruleOutput details => "Unreadable rule output: " ++ details
  | ambiguousArchive path rootFiles =>
    "Ambiguous archive: " ++ path.text ++ " has " ++ toString rootFiles ++
      " root files, expected exactly one"
  | pathExpression failure => failure.message
  | unknownType name => "Unknown validation type: " ++ name
  | externalArtifact kind details => "External " ++ kind ++ " artifacts: " ++ details
  | cache details => "Cache error: " ++ details
  | serialization details => "Report serialization failed: " ++ details
  | config details => "Configuration error: " ++ details
  | processor details => "LibXML2 internal error: " ++ details
  | concurrency details => "Concurrent operation error: " ++ details

/-- Whether an error makes the whole request fail. -/
def refusesRequest : AuditError → Bool
  | ambiguousArchive _ _ | unknownType _ | externalArtifact _ _ | config _ => true
  | _ => false

/-- The error of a file that cannot be used. -/
def ofFile (f : Files.Fault) : AuditError := io f.message

/-- The error of a document that cannot be read. -/
def ofMalformed (m : Xml.Malformed) : AuditError := malformedInput m.line m.fault.message

/-- The error of a fault of the cache. -/
def ofCache (f : CacheFault) : AuditError := cache f.message

/-- The error of a fault of the configuration. -/
def ofConfig (f : ConfigFault) : AuditError := config f.message

/-- The error of a fault of the processor. -/
def ofProcessor : ProcessorFault → AuditError
  | .unresolvedReference systemId => unresolvedReference systemId
  | f => processor f.message

end AuditError

end XmlAudit
