import RowTriples.CommandLine
import RowTriples.Conversion.Run
import RowTriples.Json.Indented
import RowTriples.Settings.Load
import RowTriples.Settings.Variables
/-!
# The program

The command line names a settings file. The settings are completed from the environment and the
command line, the jobs are run, and the report is printed if it is asked for. The exit status tells
a command line that is not understood from a run that fails.
-/

namespace RowTriples

def ChunkReport.toJson (report : ChunkReport) : Json :=
  .object [("path", .string report.path), ("rows", .ofCount report.rows),
    ("statements", .ofCount report.statements), ("diagnostics", .ofCount report.diagnostics),
    ("sha256", .string report.checksum)]

def TableReport.toJson (report : TableReport) : Json :=
  .object [("source", .string report.source),
    ("chunks", .array (report.chunks.map ChunkReport.toJson)),
    ("unreadable_rows", .ofCount report.unreadable)]

def Report.toJson (report : Report) : Json :=
  .object [("files", .array (report.tables.map TableReport.toJson)),
    ("skipped_jobs", .array (report.skipped.map Json.string))]

/-- What is around the program where nothing can be fetched. -/
def Surroundings.offline (fresh : Nat → String) : Surroundings where
  fresh := fresh
  geocoder := some fun _ _ => .error (.request "no connection")

namespace Program

def version : String := "tablegraph 0.3.0-dev"

def usage : String :=
  "\n".intercalate
    ["Usage: tablegraph [OPTIONS] --config <CONFIG>",
      "",
      "Options:",
      "  -c, --config <CONFIG>            Run configuration file (YAML or JSON)",
      "      --output-dir <OUTPUT_DIR>    Directory chunk files are written to",
      "      --chunk-size <CHUNK_SIZE>    Source rows per output chunk",
      "      --deterministic-ids <MODE>   Identifier mode: NONE, FILE or GLOBAL",
      "      --json-report                Print the run report as JSON on stdout",
      "  -h, --help                       Print help",
      "  -V, --version                    Print version"]

/-- What the program leaves behind. -/
structure Outcome where
  status : Nat
  output : String := ""
  message : String := ""
  tree : FileTree

/-- The file that adds variables to the environment. -/
def variablesFile : String := ".env"

/-- The status of a command line that is not understood. -/
def usageStatus : Nat := 2

def failureStatus : Nat := 1

def settings (tree : FileTree) (environment : Environment) (invocation : Invocation) :
    Except SettingsError Settings := do
  let settings := (← Settings.load tree environment invocation.settings).override
    invocation.overrides
  settings.check
  return settings

def errorText (error : RunError) : String :=
  let cause :=
    match error with
    | .template _ cause => [cause.message]
    | .record _ _ cause => [cause.message]
    | _ => []
  ": ".intercalate (error.context ++ cause)

/-- The environment with the variables of the file that adds some. -/
def completed (tree : FileTree) (environment : Environment) : Environment :=
  match tree.read? variablesFile with
  | some bytes => Variables.addTo environment (Variables.readableText bytes)
  | none => environment

/-- The paths of the files that a run needs besides its settings. -/
def inputs (tree : FileTree) (environment : Environment) (invocation : Invocation) : List String :=
  match settings tree (completed tree environment) invocation with
  | .ok settings =>
    settings.schema.toList ++ settings.jobs.flatMap fun job => [job.table, job.template]
  | .error _ => []

def run (surroundings : Surroundings) (environment : Environment) (tree : FileTree)
    (arguments : List String) : Outcome :=
  match CommandLine.read arguments with
  | .error e => { status := usageStatus, message := "error: " ++ e.message, tree }
  | .ok .help => { status := 0, output := usage, tree }
  | .ok .version => { status := 0, output := version, tree }
  | .ok (.run invocation) =>
    match settings tree (completed tree environment) invocation with
    | .error e => { status := failureStatus, message := "Error: " ++ e.message, tree }
    | .ok settings =>
      match runJobs settings surroundings tree with
      | (run, some error) =>
        { status := failureStatus, message := "Error: " ++ errorText error, tree := run.tree }
      | (run, none) =>
        let output := if invocation.report then run.report.toJson.indented else ""
        { status := 0, output, tree := run.tree }

end Program

end RowTriples
