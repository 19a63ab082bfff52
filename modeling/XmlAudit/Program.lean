import XmlAudit.CommandLine.Help
import XmlAudit.Config.Load
import XmlAudit.Engine
import XmlAudit.Report.Listing

/-!
# The program

The inputs that the arguments name are audited under one profile; each report is printed and
written, and the exit code tells whether all inputs succeeded.

* `Program.run`: what the program does with its arguments.
* `Program.plan`: what is to be audited, and how.
* `Program.deliver`: the reports printed and written, in the order of the inputs.
-/

namespace XmlAudit

open Artifact (Supplied)
open Files (Path FileTree)

/-- What the program runs on. A file of the net is asked for once per attempt, counted from 0. -/
structure Host (Sheet : Type) where
  surroundings : Surroundings
  get : (attempt : Nat) → (url : String) → Except Remote.AttemptFault (Remote.Response (List UInt8))
  processor : Processor Sheet
  workRoot : Path
  now : Time.Instant

/-- How the program ends: its exit code, what it prints, given the milliseconds that it took, and
the files after it. -/
structure Exit where
  code : UInt32
  stdout : (milliseconds : Nat) → String
  stderr : String
  files : FileTree

/-- Why the program gives up. -/
inductive ProgramFault where
  | options (details : String)
  | configuration (fault : ConfigFault)
  | selection (fault : ConfigFault)
  | input (path : Path) (fault : Files.Fault)
  | report (fault : Files.Fault)
deriving DecidableEq, Repr

/-- The wording of a fault of the configuration with that of its cause. -/
def ConfigFault.withCause (f : ConfigFault) : String :=
  match f with
  | .io details | .tomlParsing details | .jsonParsing details => f.message ++ ": " ++ details
  | _ => f.message

/-- How a fault is worded, with its cause. -/
def ProgramFault.message : ProgramFault → String
  | options details => details
  | configuration f => "Failed to load configuration: " ++ f.withCause
  | selection f => f.withCause
  | input path f => "Failed to read " ++ path.text ++ ": " ++ f.message
  | report f => (AuditError.ofFile f).message ++ ": " ++ f.message

namespace Program

/-- What is to be audited, and how. -/
structure Plan where
  config : Config
  profile : Profile
  requests : List Request
deriving Repr

/-- The type of a run that names none under a profile that covers none. -/
def usualType : String := "default"

/-- The profile of a run: the selected one or, if none is configured, one whose artifacts come with
the arguments. -/
def profileOf (c : Config) (o : Options) : Except ConfigFault Profile :=
  match c.profiles with
  | [] => .ok (.adHoc (o.type.getD usualType))
  | _ => c.select o.profile

/-- The type of a run. -/
def typeOf (p : Profile) (o : Options) : String := (o.type.or p.defaultType?).getD usualType

/-- The request for an input. -/
def requestFor (t : FileTree) (o : Options) (type : String) (input : Path) :
    Except ProgramFault Request := do
  let content ← (t.read input).mapError (.input input)
  return ⟨content, type, o.schemas.map (.ofPath t), o.ruleSets.map (.ofPath t)⟩

/-- **What is to be audited, and how.** -/
def plan (s : Surroundings) (o : Options) : Except ProgramFault Plan := do
  (o.check s.files).mapError .options
  let c ← (Config.load s o).mapError .configuration
  let p ← (profileOf c o).mapError .selection
  return ⟨c, p, ← o.inputs.mapM (requestFor s.files o (typeOf p o))⟩

/-- The network of a host, each file asked for as often as the policy says. -/
def network (h : Host Sheet) (c : Config) : Remote.Network :=
  ⟨fun _ url => (Remote.download (.ofNetwork c.network) (h.get · url)).outcome⟩

/-- What carries out the audits of a run. -/
def engineOf (h : Host Sheet) (c : Config) : Engine Sheet :=
  let s := EngineSettings.ofConfig c
  { store := ⟨s.cacheDir, network h c, Remote.manyRounds⟩
    processor := h.processor
    locale := s.locale
    checkSchemas := h.processor.schemaCheck
    plugins := []
    workRoot := s.workRoot.getD h.workRoot }

/-- The state in which audits start. -/
def start (t : FileTree) (c : Config) : Workspace Sheet :=
  ⟨.start t, .empty (EngineSettings.ofConfig c).disableTransforms⟩

/-- The outcomes of the audits, in the order of the inputs, and the files after them. -/
def audits (h : Host Sheet) (p : Plan) : List (Except AuditError Audit) × FileTree :=
  let done := (engineOf h p.config).auditAll h.now p.profile p.requests
    (start h.surroundings.files p.config)
  (done.1, done.2.files)

/-- What was delivered: the text printed, the files after it and, where a report could not be
written, why. -/
structure Delivery where
  text : String
  files : FileTree
  fault : Option Files.Fault

/-- A delivery with some text before it. -/
def Delivery.after (d : Delivery) (text : String) : Delivery := { d with text := text ++ d.text }

/-- What is printed for a report. -/
def printed (v : Verbosity) (f : Format) (input : Path) (r : Report) : String :=
  match f with
  | .human => r.listing v input
  | .json | .xml => r.render f ++ "\n"

/-- The directory for reports. -/
def reportDir (o : Options) : Path := o.outputDir.getD (.ofText ".")

/-- **The outcomes printed and the reports written,** from the input of number `n` on. An input that
was refused has no report, but a number. -/
def deliver (o : Options) (f : Format) (t : FileTree) (n : Nat) :
    List (Path × Except AuditError Report) → Delivery
  | [] => ⟨"", t, none⟩
  | (input, .error e) :: rest => (deliver o f t (n + 1) rest).after (rejectionLine input e)
  | (input, .ok r) :: rest =>
    let text := printed o.verbosity f input r
    if o.noReports then (deliver o f t (n + 1) rest).after text
    else
      match r.write t (reportDir o) n f with
      | .ok (t, _) => (deliver o f t (n + 1) rest).after text
      | .error fault => ⟨text, t, some fault⟩

/-- How many outcomes are reports of success. -/
def succeeded (outcomes : List (Except AuditError Report)) : Nat :=
  outcomes.countP fun o => match o with
    | .ok r => r.isSuccess
    | .error _ => false

/-- The program gives up. -/
def giveUp (text : String) (t : FileTree) (f : ProgramFault) : Exit :=
  ⟨2, fun _ => text, "Error: " ++ f.message ++ "\n", t⟩

/-- The end of a run whose audits are done. -/
def conclude (o : Options) (c : Config) (t : FileTree)
    (outcomes : List (Except AuditError Report)) : Exit :=
  let f := c.output.format
  let d := deliver o f t 1 (o.inputs.zip outcomes)
  match d.fault with
  | some fault => giveUp d.text d.files (.report fault)
  | none =>
    let total := o.inputs.length
    let good := succeeded outcomes
    let last (ms : Nat) : String :=
      if f = .human then summary o.verbosity (.ofNat total) (.ofNat good) ms else ""
    ⟨if good = total then 0 else 1, fun ms => d.text ++ last ms, "", d.files⟩

/-- What the program does with readable arguments. -/
def runWith (h : Host Sheet) (o : Options) : Exit :=
  match plan h.surroundings o with
  | .error f => giveUp "" h.surroundings.files f
  | .ok p =>
    let done := audits h p
    conclude o p.config done.2 (done.1.map fun a => a.map (·.report))

/-- **What the program does with its arguments.** -/
def run (h : Host Sheet) (args : List String) : Exit :=
  let t := h.surroundings.files
  match Options.parse args with
  | .ok o => runWith h o
  | .error .help => ⟨0, fun _ => helpText, "", t⟩
  | .error .version => ⟨0, fun _ => versionLine, "", t⟩
  | .error f => ⟨2, fun _ => "", "error: " ++ f.message ++ "\n\n" ++ usageLine, t⟩

end Program

end XmlAudit
