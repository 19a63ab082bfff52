import XmlAudit.Config.Basic
import XmlAudit.Files.Tree

/-!
# The command line

* `Options.parse`: the options and inputs that arguments name.
* `Options.check`: whether the named files are there.
* `UsageFault`: why arguments are refused.

An option with a value waits for it; a flag, another option or an input found first ends the wait.
-/

namespace XmlAudit

open Files (Path FileTree)

/-- How much is printed. -/
inductive Verbosity where
  | quiet
  | normal
  | verbose
deriving DecidableEq, Repr, Inhabited

/-- What the arguments of a run ask for. -/
structure Options where
  inputs : List Path
  type : Option String
  profile : Option String
  config : Option Path
  schemas : List Path
  ruleSets : List Path
  noReports : Bool
  outputDir : Option Path
  locale : Option String
  format : Option Format
  verbose : Bool
  quiet : Bool
  cacheDir : Option Path
  timeout : Option UInt64
  disableTransforms : Bool
  threads : Option UInt64
deriving DecidableEq, Repr, Inhabited

/-- Why arguments are refused, or what they ask for in place of a run. -/
inductive UsageFault where
  | help
  | version
  | unknownArgument
  | invalidValue
  | badNumber
  | conflict
  | unexpectedValue
  | missingInput
deriving DecidableEq, Repr

/-- What can be given on the command line: flags, options with a value, and inputs. -/
inductive Param where
  | help | version | noReports | verbose | quiet | disableTransforms
  | type | profile | config | schema | ruleSet | outputDir | locale | format | cacheDir | timeout
  | threads
  | input
deriving DecidableEq, Repr

namespace Param

/-- The parameter of a long name. -/
def ofLong? : String → Option Param
  | "help" => some help
  | "version" => some version
  | "no-reports" => some noReports
  | "verbose" => some verbose
  | "quiet" => some quiet
  | "disable-transform-cache" => some disableTransforms
  | "type" => some type
  | "profile" => some profile
  | "config" => some config
  | "xsd" => some schema
  | "sch" => some ruleSet
  | "output-dir" => some outputDir
  | "locale" => some locale
  | "format" => some format
  | "cache-dir" => some cacheDir
  | "timeout" => some timeout
  | "threads" => some threads
  | _ => none

/-- The parameter of a letter. -/
def ofShort? : Char → Option Param
  | 'h' => some help
  | 'V' => some version
  | 'v' => some verbose
  | 'q' => some quiet
  | 't' => some type
  | 'p' => some profile
  | 'c' => some config
  | 'j' => some threads
  | _ => none

/-- Whether a parameter has no value. -/
def isFlag : Param → Bool
  | help | version | noReports | verbose | quiet | disableTransforms => true
  | _ => false

/-- Whether a parameter may be given several times. -/
def isRepeatable : Param → Bool
  | schema | ruleSet | input => true
  | _ => false

end Param

/-- The number below a bound that digits spell, after a plus sign if there is one. -/
def decimalBelow? (bound : Nat) (s : String) : Option Nat :=
  let cs := s.toList
  let ds := if cs.head? = some '+' then cs.drop 1 else cs
  if ds.isEmpty || !ds.all Char.isDigit then none
  else
    let n := ds.foldl (fun n c => n * 10 + (c.toNat - 48)) 0
    if n < bound then some n else none

namespace Options

/-- Nothing asked for. -/
def empty : Options :=
  ⟨[], none, none, none, [], [], false, none, none, none, false, false, none, none, false, none⟩

/-- A path given as a value, which must not be empty. -/
def pathValue (s : String) : Except UsageFault Path :=
  if s = "" then .error .invalidValue else .ok (.ofText s)

/-- A number of 64 bits given as a value. -/
def wordValue (s : String) : Except UsageFault UInt64 :=
  match decimalBelow? UInt64.size s with
  | some n => .ok (.ofNat n)
  | none => .error .badNumber

/-- A format given as a value. -/
def formatValue (s : String) : Except UsageFault Format :=
  match Format.ofName? s with
  | some f => .ok f
  | none => .error .invalidValue

/-- The options with the value of one more parameter. -/
def put (o : Options) (p : Param) (s : String) : Except UsageFault Options :=
  match p with
  | .help => .error .help
  | .version => .error .version
  | .noReports => .ok { o with noReports := true }
  | .verbose => .ok { o with verbose := true }
  | .quiet => .ok { o with quiet := true }
  | .disableTransforms => .ok { o with disableTransforms := true }
  | .type => .ok { o with type := some s }
  | .profile => .ok { o with profile := some s }
  | .locale => .ok { o with locale := some s }
  | .config => do return { o with config := some (← pathValue s) }
  | .schema => do return { o with schemas := o.schemas ++ [← pathValue s] }
  | .ruleSet => do return { o with ruleSets := o.ruleSets ++ [← pathValue s] }
  | .outputDir => do return { o with outputDir := some (← pathValue s) }
  | .cacheDir => do return { o with cacheDir := some (← pathValue s) }
  | .format => do return { o with format := some (← formatValue s) }
  | .timeout => do return { o with timeout := some (← wordValue s) }
  | .threads => do return { o with threads := some (← wordValue s) }
  | .input => do return { o with inputs := o.inputs ++ [← pathValue s] }

end Options

/-- What is read of the arguments: the options, the parameters given so far, and one that waits,
with its values. -/
structure Reading where
  options : Options
  given : List Param
  waiting : Option (Param × List String)
deriving Repr

namespace Reading

/-- The reading before the first argument. -/
def start : Reading := ⟨.empty, [], none⟩

/-- A parameter with its values; only some may be given twice. -/
def give (r : Reading) (p : Param) (values : List String) : Except UsageFault Reading := do
  if !p.isRepeatable && r.given.contains p then throw .conflict
  else
    let options ← values.foldlM (fun o s => o.put p s) r.options
    return { r with options := options, given := p :: r.given }

/-- The parameter that waits is given its values, of which there must be one. -/
def settle (r : Reading) : Except UsageFault Reading :=
  match r.waiting with
  | none => .ok r
  | some (_, []) => .error .invalidValue
  | some (p, values) => { r with waiting := none }.give p values

/-- A flag. -/
def flag (r : Reading) (p : Param) : Except UsageFault Reading := do
  (← r.settle).give p [""]

/-- An option, with its value or waiting for it. -/
def option (r : Reading) (p : Param) (value : Option String) : Except UsageFault Reading := do
  let r ← r.settle
  match value with
  | some s => r.give p [s]
  | none => return { r with waiting := some (p, []) }

/-- The letters of an argument after its dash: flags, of which the last one may be an option with
the rest as its value. -/
def letters (r : Reading) : List Char → Except UsageFault Reading
  | [] => .ok r
  | c :: cs =>
    match Param.ofShort? c with
    | none => .error .unknownArgument
    | some p =>
      if p.isFlag then do letters (← r.flag p) cs
      else
        r.option p (match cs with
          | [] => none
          | '=' :: value => some (String.ofList value)
          | value => some (String.ofList value))

/-- An argument with two dashes, without these. -/
def long (r : Reading) (cs : List Char) : Except UsageFault Reading :=
  let name := cs.takeWhile (· ≠ '=')
  let value :=
    if name.length < cs.length then some (String.ofList (cs.drop (name.length + 1))) else none
  match Param.ofLong? (String.ofList name) with
  | none => .error .unknownArgument
  | some p =>
    if p.isFlag then if value.isSome then .error .unexpectedValue else r.flag p
    else r.option p value

/-- An argument that is an input. Inputs in a row are taken together. -/
def input (r : Reading) (s : String) : Except UsageFault Reading := do
  match r.waiting with
  | some (.input, values) => return { r with waiting := some (.input, values ++ [s]) }
  | _ => return { (← r.settle) with waiting := some (.input, [s]) }

/-- An argument without dashes: the value of the option that waits for one, or an input. -/
def plain (r : Reading) (s : String) : Except UsageFault Reading :=
  match r.waiting with
  | some (p, []) => .ok { r with waiting := some (p, [s]) }
  | _ => r.input s

/-- The arguments; after two dashes on their own all are inputs. -/
def run (r : Reading) (onlyInputs : Bool) : List String → Except UsageFault Reading
  | [] => .ok r
  | s :: rest =>
    if onlyInputs then do run (← r.input s) true rest
    else
      match s.toList with
      | ['-', '-'] => run r true rest
      | '-' :: '-' :: cs => do run (← r.long cs) false rest
      | '-' :: c :: cs => do run (← r.letters (c :: cs)) false rest
      | _ => do run (← r.plain s) false rest

end Reading

namespace Options

/-- The options and inputs that arguments name. -/
def parse (args : List String) : Except UsageFault Options := do
  let o := (← (← Reading.start.run false args).settle).options
  if o.verbose && o.quiet then throw .conflict
  else if o.inputs.isEmpty then throw .missingInput
  else return o

variable (o : Options)

/-- How much is printed. -/
def verbosity : Verbosity := if o.quiet then .quiet else if o.verbose then .verbose else .normal

/-- Whether the named files are there; the text says what is wrong. -/
def check (t : FileTree) : Except String Unit :=
  match o.inputs.find? (!t.isFile ·) with
  | some p => .error ("Input file does not exist: " ++ p.text)
  | none =>
    match (o.schemas ++ o.ruleSets).find? fun p => (t.entry p).toOption.isNone with
    | some p => .error ("Artifact does not exist: " ++ p.text)
    | none =>
      if o.threads = some 0 then .error "Number of threads must be greater than 0" else .ok ()

end Options

end XmlAudit
