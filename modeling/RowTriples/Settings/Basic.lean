import RowTriples.Identifier.Mode
import RowTriples.Vocabulary
/-!
# Settings of a run

A run converts tables by templates and writes its output into a directory. Settings are checked as
a whole, and everything that is wrong with them is reported at once.
-/

namespace RowTriples

/-- A table and the template that it is converted by. -/
structure Job where
  table : String
  template : String
  deriving DecidableEq

/-- The service that addresses are looked up with where none is configured. -/
def defaultGeocoder : String := "https://nominatim.openstreetmap.org"

structure Settings where
  jobs : List Job := []
  outputDirectory : String := "output"
  /-- The number of rows that an output unit holds. -/
  chunkSize : Nat := 100000
  /-- The path or the address of the schema. -/
  schema : Option String := none
  mode : Mode := .none
  namespaceName : String := defaultNamespace
  geocoder : String := defaultGeocoder
  deriving DecidableEq

inductive Violation where
  | noJobs
  | noTable (job : Nat)
  | noTemplate (job : Nat)
  | noOutputDirectory
  | chunkSize
  | relativeNamespace
  | geocoderProtocol
  deriving DecidableEq

namespace Violation

/-- The setting at fault. -/
def field : Violation → String
  | .noJobs => "files"
  | .noTable job => "files[" ++ toString job ++ "].file"
  | .noTemplate job => "files[" ++ toString job ++ "].spec"
  | .noOutputDirectory => "output_dir"
  | .chunkSize => "chunk_size"
  | .relativeNamespace => "namespace"
  | .geocoderProtocol => "geocoder_url"

/-- The kind of rule. -/
def code : Violation → String
  | .noJobs | .noTable _ | .noTemplate _ | .noOutputDirectory => "length"
  | .chunkSize => "range"
  | .relativeNamespace => "namespace_not_absolute"
  | .geocoderProtocol => "geocoder_url_not_http"

/-- The wording of the rule, if it has one. -/
def message? : Violation → Option String
  | .noJobs => some "At least one input file is required"
  | .noTable _ => some "Input file path cannot be empty"
  | .noTemplate _ => some "Template spec path cannot be empty"
  | .noOutputDirectory => some "Output directory cannot be empty"
  | .chunkSize => some "Chunk size must be between 1 and 10000000"
  | .relativeNamespace | .geocoderProtocol => none

end Violation

namespace Settings

/-- The greatest number of rows that an output unit may hold. -/
def maxChunkSize : Nat := 10000000

def isWebAddress (address : String) : Bool :=
  Text.startsWith "http://" address || Text.startsWith "https://" address

def violations (settings : Settings) : List Violation :=
  let breaks (broken : Bool) (rule : Violation) : List Violation := if broken then [rule] else []
  let jobs := settings.jobs.zipIdx.flatMap fun (job, i) =>
    breaks job.table.isEmpty (.noTable i) ++ breaks job.template.isEmpty (.noTemplate i)
  breaks settings.jobs.isEmpty .noJobs ++ jobs ++
    breaks settings.outputDirectory.isEmpty .noOutputDirectory ++
    breaks (settings.chunkSize < 1 || maxChunkSize < settings.chunkSize) .chunkSize ++
    breaks (!isAbsolute settings.namespaceName) .relativeNamespace ++
    breaks (!isWebAddress settings.geocoder) .geocoderProtocol

end Settings

structure Overrides where
  outputDirectory : Option String := none
  chunkSize : Option Nat := none
  mode : Option Mode := none

namespace Settings

/-- The settings with those of the command line in their place. -/
def override (settings : Settings) (o : Overrides) : Settings :=
  { settings with
    outputDirectory := o.outputDirectory.getD settings.outputDirectory
    chunkSize := o.chunkSize.getD settings.chunkSize
    mode := o.mode.getD settings.mode }

end Settings

end RowTriples
