import XmlAudit.CommandLine
import XmlAudit.Remote.Download

/-!
# What the program tells about itself

* `helpText`: how the program is called, with a line per parameter.
* `versionLine`: the name and the version of the program.
* `UsageFault.message`: why arguments are refused.
-/

namespace XmlAudit

/-- A line of help: the letter and the long name of an option, what its value stands for, and what
it is for. -/
structure HelpLine where
  letter : Option Char
  long : String
  value : Option String
  purpose : String

/-- The options in the order in which help lists them. -/
def helpLines : List HelpLine := [
  ⟨'t', "type", "VALIDATION_TYPE", "Validation type within the profile"⟩,
  ⟨'p', "profile", "PROFILE", "Profile name from the configuration file"⟩,
  ⟨'c', "config", "CONFIG", "Configuration file (TOML or JSON)"⟩,
  ⟨none, "xsd", "SCHEMAS",
    "Additional XML Schema (file, or directory holding an unpacked archive)"⟩,
  ⟨none, "sch", "RULE_SETS",
    "Additional Schematron rule set (file, or directory holding an unpacked archive)"⟩,
  ⟨none, "no-reports", none, "Do not write report files"⟩,
  ⟨none, "output-dir", "OUTPUT_DIR",
    "Directory for report files (defaults to the current directory)"⟩,
  ⟨none, "locale", "LOCALE", "Locale used to pick localized rule messages"⟩,
  ⟨none, "format", "FORMAT", "Report format [possible values: human, json, xml]"⟩,
  ⟨'v', "verbose", none, "Enable verbose output"⟩,
  ⟨'q', "quiet", none, "Quiet mode"⟩,
  ⟨none, "cache-dir", "CACHE_DIR", "Cache directory for remote artifacts"⟩,
  ⟨none, "timeout", "TIMEOUT", "HTTP request timeout in seconds"⟩,
  ⟨none, "disable-transform-cache", none, "Recompile stylesheets on every use"⟩,
  ⟨'j', "threads", "THREADS", "Number of inputs validated concurrently"⟩,
  ⟨'h', "help", none, "Print help"⟩,
  ⟨'V', "version", none, "Print version"⟩]

namespace HelpLine

/-- How an option is written. -/
def usage (h : HelpLine) : String :=
  (match h.letter with
    | some c => "-" ++ String.singleton c ++ ", "
    | none => "    ") ++
  "--" ++ h.long ++ (h.value.map fun v => " <" ++ v ++ ">").getD ""

/-- The line of an option, its purpose starting behind the longest usage. -/
def render (width : Nat) (h : HelpLine) : String :=
  let gap := String.ofList (List.replicate (width - h.usage.length + 2) ' ')
  "  " ++ h.usage ++ gap ++ h.purpose ++ "\n"

end HelpLine

/-- How the program is called. -/
def usageLine : String := "Usage: " ++ Config.programName ++ " [OPTIONS] <INPUTS>...\n"

/-- How the program is called, with a line per parameter. -/
def helpText : String :=
  let width := (helpLines.map (·.usage.length)).foldl max 0
  "Validate XML documents against XML Schema and Schematron rule sets\n\n" ++ usageLine ++
    "\nArguments:\n  <INPUTS>...  XML files to validate\n\nOptions:\n" ++
    String.join (helpLines.map (·.render width))

/-- The name and the version of the program. -/
def versionLine : String :=
  Config.programName ++ " " ++ Remote.DownloadPolicy.programVersion ++ "\n"

/-- Why arguments are refused. -/
def UsageFault.message : UsageFault → String
  | help => "help was asked for"
  | version => "the version was asked for"
  | unknownArgument => "unexpected argument found"
  | invalidValue => "invalid value for an option"
  | badNumber => "an option needs a whole number in range"
  | conflict => "options that exclude each other were given"
  | unexpectedValue => "a flag takes no value"
  | missingInput => "the following required arguments were not provided: <INPUTS>..."

end XmlAudit
