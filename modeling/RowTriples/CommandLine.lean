import RowTriples.Decimal.Reader
import RowTriples.Settings.Basic
/-!
# The command line

Options are written with two hyphens and their value behind them or behind an equals sign; a few
have a short form of one letter. An option may be given once, and a value may begin with a hyphen
only behind an equals sign. Asking for help or for the version ends the reading.
-/

namespace RowTriples

/-- What a run is asked to do. -/
structure Invocation where
  settings : String
  overrides : Overrides := {}
  /-- Whether the report is printed. -/
  report : Bool := false

inductive Command where
  | help
  | version
  | run (invocation : Invocation)

inductive UsageError where
  | unexpected (argument : String)
  | missingValue (option : String)
  | unwantedValue (option : String)
  | repeated (option : String)
  | badValue (option value reason : String)
  | missing (option : String)
  deriving DecidableEq

def UsageError.message : UsageError → String
  | .unexpected argument => "unexpected argument '" ++ argument ++ "' found"
  | .missingValue option =>
    "a value is required for '--" ++ option ++ "' but none was supplied"
  | .unwantedValue option =>
    "unexpected value for '--" ++ option ++ "' found; no more were expected"
  | .repeated option => "the argument '--" ++ option ++ "' cannot be used multiple times"
  | .badValue option value reason =>
    "invalid value '" ++ value ++ "' for '--" ++ option ++ "': " ++ reason
  | .missing option => "the following required arguments were not provided: --" ++ option

inductive Flag where
  | settings
  | outputDirectory
  | chunkSize
  | mode
  | report
  | help
  | version
  deriving DecidableEq

namespace Flag

def name : Flag → String
  | .settings => "config"
  | .outputDirectory => "output-dir"
  | .chunkSize => "chunk-size"
  | .mode => "deterministic-ids"
  | .report => "json-report"
  | .help => "help"
  | .version => "version"

def all : List Flag :=
  [.settings, .outputDirectory, .chunkSize, .mode, .report, .help, .version]

def named? (name : String) : Option Flag :=
  all.find? fun flag => flag.name = name

def ofLetter? (c : Char) : Option Flag :=
  if c = 'c' then some .settings
  else if c = 'h' then some .help
  else if c = 'V' then some .version
  else none

def hasValue : Flag → Bool
  | .report | .help | .version => false
  | _ => true

end Flag

namespace CommandLine

/-- The options that have been read. -/
structure Options where
  settings : Option String := none
  overrides : Overrides := {}
  report : Bool := false
  seen : List Flag := []

namespace Options

variable (options : Options)

/-- Notes that an option is given, which may happen once. -/
def note (flag : Flag) : Except UsageError Options :=
  if options.seen.contains flag then .error (.repeated flag.name)
  else .ok { options with seen := flag :: options.seen }

def give (flag : Flag) (value : String) : Except UsageError Options := do
  let o ← options.note flag
  match flag with
  | .settings =>
    if value.isEmpty then throw (.missingValue flag.name)
    else return { o with settings := some value }
  | .outputDirectory =>
    return { o with overrides := { o.overrides with outputDirectory := some value } }
  | .chunkSize =>
    match Decimal.readCount value with
    | .ok n => return { o with overrides := { o.overrides with chunkSize := some n } }
    | .error cause => throw (.badValue flag.name value cause.message)
  | .mode =>
    match Mode.read value with
    | .ok mode => return { o with overrides := { o.overrides with mode := some mode } }
    | .error cause => throw (.badValue flag.name value cause.message)
  | .report | .help | .version => throw (.unwantedValue flag.name)

/-- What the options ask for, once all of them have been read. -/
def finish : Except UsageError Command :=
  match options.settings with
  | some settings => .ok (.run ⟨settings, options.overrides, options.report⟩)
  | none => .error (.missing Flag.settings.name)

end Options

/-- An option as it is written. -/
inductive Item where
  /-- An option with what is written behind it in the same argument. -/
  | option (flag : Flag) (value : Option String)
  /-- Further letters behind an option that has no value. -/
  | letters (flag : Flag) (others : List Char)
  | endOfOptions
  | unknown

/-- The option that a letter begins, with what follows it in the same argument. -/
def Item.ofLetters : List Char → Item
  | [] => .unknown
  | c :: cs =>
    match Flag.ofLetter? c with
    | none => .unknown
    | some flag =>
      if !flag.hasValue then .letters flag cs
      else
        match cs with
        | [] => .option flag none
        | '=' :: value => .option flag (some (String.ofList value))
        | value => .option flag (some (String.ofList value))

def Item.ofArgument (argument : String) : Item :=
  match argument.toList with
  | ['-', '-'] => .endOfOptions
  | '-' :: '-' :: cs =>
    let name := cs.takeWhile (· ≠ '=')
    match Flag.named? (String.ofList name) with
    | some flag => .option flag ((cs.drop name.length).tail?.map String.ofList)
    | none => .unknown
  | '-' :: c :: cs => ofLetters (c :: cs)
  | _ => .unknown

/-- Whether an argument can be the value of the option in front of it. -/
def isValue (argument : String) : Bool :=
  match argument.toList with
  | '-' :: _ :: _ => false
  | _ => true

def readFrom (options : Options) : List String → Except UsageError Command
  | [] => options.finish
  | argument :: arguments =>
    match Item.ofArgument argument with
    | .unknown => .error (.unexpected argument)
    | .endOfOptions =>
      match arguments with
      | [] => options.finish
      | extra :: _ => .error (.unexpected extra)
    | .letters .help _ => .ok .help
    | .letters .version _ => .ok .version
    | .letters _ _ => .error (.unexpected argument)
    | .option .help none => .ok .help
    | .option .version none => .ok .version
    | .option .report none => do
      let options ← options.note .report
      readFrom { options with report := true } arguments
    | .option flag (some value) => do readFrom (← options.give flag value) arguments
    | .option flag none =>
      match arguments with
      | [] => .error (.missingValue flag.name)
      | value :: arguments =>
        if isValue value then do readFrom (← options.give flag value) arguments
        else .error (.missingValue flag.name)

def read (arguments : List String) : Except UsageError Command :=
  readFrom {} arguments

end CommandLine

end RowTriples
