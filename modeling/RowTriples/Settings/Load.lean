import RowTriples.Document.Decode
import RowTriples.Json.Parser
import RowTriples.Settings.Basic
import RowTriples.Storage.FileTree
import RowTriples.Yaml.Node
/-!
# Settings from files and the environment

Settings are read from a file in JSON or YAML. Variables of the environment take the place of what
the file says, and the outcome is checked. A blank variable counts as if it were not there.
-/

namespace RowTriples

inductive SettingsError where
  | unreadable (path : String)
  | malformedJson (path : String)
  | malformedYaml (path : String)
  /-- The text of the variable for the chunk size is no count. -/
  | chunkSize (text : String) (cause : Decimal.IntegerError)
  /-- The text of the variable for the mode names none. -/
  | mode (text : String) (cause : ModeError)
  | invalid (violations : List Violation)
  deriving DecidableEq

abbrev Environment := Entries String

namespace Environment

/-- The value of a variable, if it is not blank. -/
def value? (environment : Environment) (name : String) : Option String :=
  (Entries.get? name environment).filter fun value => !Text.isBlankText value

def outputDirectory : String := "TABLEGRAPH_OUTPUT_DIR"

def chunkSize : String := "TABLEGRAPH_CHUNK_SIZE"

def schema : String := "TABLEGRAPH_SCHEMA"

def mode : String := "TABLEGRAPH_DETERMINISTIC_IDS"

def namespaceName : String := "TABLEGRAPH_NAMESPACE"

def geocoder : String := "TABLEGRAPH_GEOCODER_URL"

end Environment

namespace SettingsError

/-- The setting, variable or file at fault. -/
def field : SettingsError → String
  | .unreadable _ => "config_file"
  | .malformedJson _ => "json_content"
  | .malformedYaml _ => "yaml_content"
  | .chunkSize .. => Environment.chunkSize
  | .mode .. => Environment.mode
  | .invalid _ => ""

/-- The path or the text at fault. -/
def value : SettingsError → String
  | .unreadable path | .malformedJson path | .malformedYaml path => path
  | .chunkSize text _ | .mode text _ => text
  | .invalid _ => ""

def message (e : SettingsError) : String :=
  let parsing (reason : String) :=
    "Parse error for " ++ e.field ++ ": " ++ e.value ++ " - " ++ reason
  match e with
  | .unreadable _ => parsing "the file cannot be read"
  | .malformedJson _ => parsing "the text is no run configuration in JSON"
  | .malformedYaml _ => parsing "the text is no run configuration in YAML"
  | .chunkSize _ cause => parsing cause.message
  | .mode _ cause => parsing cause.message
  | .invalid violations =>
    "Validation error: " ++ "; ".intercalate (violations.map fun violation =>
      violation.field ++ ": " ++ violation.message?.getD violation.code)

end SettingsError

/-- A mode, written by its name. In JSON an object with the name as its only key and a null as its
value stands for it too, and in YAML a null under the name as its tag. -/
def Document.asMode (positional : Bool) (document : Document) : Decoded Mode :=
  let named (name : String) : Decoded Mode :=
    match Mode.named? name with
    | some mode => .ok mode
    | none => .error (.unknownName name ["NONE", "FILE", "GLOBAL"])
  match document with
  | .tagged (.own name) (.plain value) =>
    if isNullWord value then named name else document.mismatch "a mode"
  | .tagged (.own _) _ => document.mismatch "a mode"
  | .text name | .plain name | .tagged _ (.text name) | .tagged _ (.plain name) => named name
  | .map [(name, .null)] =>
    if positional then named name else document.mismatch "a mode"
  | _ => document.mismatch "a mode"

namespace Job

def shape : RecordShape :=
  ⟨"Job", [{ name := "file", alias? := some "FILE" }, { name := "spec", alias? := some "SPEC" }]⟩

def ofDocument (positional : Bool) (document : Document) : Decoded Job :=
  document.asRecord positional shape
    (fun i d (job : Job) => do
      if i = 0 then return { job with table := ← d.asText }
      else return { job with template := ← d.asText })
    ⟨"", ""⟩

end Job

namespace Settings

def shape : RecordShape :=
  let field (name other : String) : RecordField :=
    { name := name, alias? := some other, optional := true }
  ⟨"Settings", [{ name := "files", alias? := some "FILES" }, field "output_dir" "OUTPUTDIR",
    field "chunk_size" "CHUNKSIZE", field "schema" "SCHEMA",
    field "deterministic_ids" "DETERMINISTIC_IDS", field "namespace" "NAMESPACE",
    field "geocoder_url" "GEOCODER_URL"]⟩

def ofDocument (positional : Bool) (document : Document) : Decoded Settings :=
  document.asRecord positional shape
    (fun i d (settings : Settings) => do
      if i = 0 then return { settings with jobs := ← d.asList (Job.ofDocument positional) }
      else if i = 1 then return { settings with outputDirectory := ← d.asText }
      else if i = 2 then return { settings with chunkSize := ← d.asCount }
      else if i = 3 then return { settings with schema := ← d.asOption Document.asText }
      else if i = 4 then return { settings with mode := ← d.asMode positional }
      else if i = 5 then return { settings with namespaceName := ← d.asText }
      else return { settings with geocoder := ← d.asText })
    {}

def ofJsonText? (text : String) : Option Settings :=
  (Json.Text.document? text).bind fun document => (ofDocument true document).toOption

def ofYamlText? (text : String) : Option Settings :=
  (Document.ofYaml? text).bind fun document => (ofDocument false document).toOption

/-- The settings with those of the environment in their place. -/
def layer (settings : Settings) (environment : Environment) : Except SettingsError Settings := do
  let chunkSize ←
    match environment.value? Environment.chunkSize with
    | none => pure settings.chunkSize
    | some text =>
      match Decimal.readCount (Text.trimmed text) with
      | .ok n => pure n
      | .error cause => throw (.chunkSize text cause)
  let mode ←
    match environment.value? Environment.mode with
    | none => pure settings.mode
    | some text =>
      match Mode.read text with
      | .ok mode => pure mode
      | .error cause => throw (.mode text cause)
  return { settings with
    outputDirectory :=
      (environment.value? Environment.outputDirectory).getD settings.outputDirectory
    chunkSize := chunkSize
    schema := (environment.value? Environment.schema).or settings.schema
    mode := mode
    namespaceName := (environment.value? Environment.namespaceName).getD settings.namespaceName
    geocoder := (environment.value? Environment.geocoder).getD settings.geocoder }

def check (settings : Settings) : Except SettingsError Unit :=
  match settings.violations with
  | [] => .ok ()
  | violations => .error (.invalid violations)

/-- The settings in the file that a path leads to, before the environment has its say. -/
def read (tree : FileTree) (path : String) : Except SettingsError Settings :=
  match tree.readText? path with
  | none => .error (.unreadable path)
  | some text =>
    if Path.extension? path = some "json" then
      match ofJsonText? text with
      | some settings => .ok settings
      | none => .error (.malformedJson path)
    else
      match ofYamlText? text with
      | some settings => .ok settings
      | none => .error (.malformedYaml path)

def load (tree : FileTree) (environment : Environment) (path : String) :
    Except SettingsError Settings := do
  let settings ← (← read tree path).layer environment
  settings.check
  return settings

end Settings

end RowTriples
