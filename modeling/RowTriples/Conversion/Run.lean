import RowTriples.Conversion.Records
import RowTriples.Settings.Basic
import RowTriples.Storage.FileTree
import RowTriples.Template.Load
/-!
# Runs

A run converts its jobs one after the other in a tree of files. A job whose table or template is
missing is skipped. The first error ends the run; the tree then holds what was written until then,
and the error tells what was being done.
-/

namespace RowTriples

structure TableReport where
  source : String
  chunks : List ChunkReport
  /-- The number of records that could not be read. -/
  unreadable : Nat
  deriving DecidableEq

structure Report where
  tables : List TableReport := []
  /-- The tables of the jobs that were skipped. -/
  skipped : List String := []
  deriving DecidableEq

namespace Report

def chunks (report : Report) : List ChunkReport :=
  report.tables.flatMap TableReport.chunks

def totalRows (report : Report) : Nat :=
  report.chunks.foldl (fun total chunk => total + chunk.rows) 0

def totalStatements (report : Report) : Nat :=
  report.chunks.foldl (fun total chunk => total + chunk.statements) 0

end Report

inductive RunError where
  | outputDirectory (path : String)
  | template (path : String) (cause : TemplateError)
  /-- The header of the table cannot be read. -/
  | header (table : String)
  /-- A chunk of the table cannot be created. -/
  | chunk (table path : String)
  /-- The record of the table with the number cannot be expanded. -/
  | record (table : String) (number : Nat) (cause : ExpansionError)

/-- What was being done when the error occurred, the whole before its parts. -/
def RunError.context : RunError → List String
  | .outputDirectory path => ["Failed to create output directory " ++ path]
  | .template path _ => ["Failed to load template " ++ path]
  | .header table => ["Failed to convert " ++ table, "Failed to read header of " ++ table]
  | .chunk table path => ["Failed to convert " ++ table, "Failed to create " ++ path]
  | .record table number _ =>
    ["Failed to convert " ++ table, table ++ ": row " ++ toString number]

/-- Where the schema and the answers about addresses come from, and the supply of random
identifiers. -/
structure Surroundings where
  fresh : Nat → String
  geocoder : Option Geocoder := none
  /-- The body of a document on the web, if it can be fetched. -/
  document? : String → Option String := fun _ => none

/-- The schema that a path or an address leads to. One that cannot be read declares nothing. -/
def Schema.load (surroundings : Surroundings) (tree : FileTree) (vocabulary : Vocabulary)
    (source : String) : Schema :=
  let text :=
    if Settings.isWebAddress source then surroundings.document? source else tree.readText? source
  (text.map (Schema.ofText vocabulary)).getD Schema.empty

/-- The template that a path leads to. The extension tells the form in which it is written. -/
def Template.load (tree : FileTree) (path : String) : Except TemplateError Template :=
  match tree.readText? path with
  | none => .error (.unreadable path)
  | some text =>
    if Path.extension? path ∈ [some "yaml", some "yml"] then ofYamlText text else ofJsonText text

def Settings.language (settings : Settings) (surroundings : Surroundings) (tree : FileTree) :
    Language :=
  let vocabulary := Vocabulary.of settings.namespaceName
  ⟨(settings.schema.map (Schema.load surroundings tree vocabulary)).getD Schema.empty, vocabulary⟩

structure Run where
  tree : FileTree
  report : Report := {}
  progress : Progress := {}

namespace Run

variable (settings : Settings) (surroundings : Surroundings) (language : Language)

/-- The tree with the chunks of a table in a directory. -/
def store (directory : String) (tree : FileTree) (chunks : List Chunk) : FileTree :=
  chunks.foldl (fun tree chunk =>
    (tree.write? (Path.join directory chunk.name) (Digest.utf8 chunk.text)).getD tree) tree

def plan (tree : FileTree) (template : Template) (source : String) (header : Header) : Plan where
  language := language
  mode := settings.mode
  fresh := surroundings.fresh
  geocoder := surroundings.geocoder
  template := template
  header := header
  stem := (Path.stem? source).getD "output"
  chunkSize := settings.chunkSize
  refuses := fun name => (tree.write? (Path.join settings.outputDirectory name) []).isNone

def convert (run : Run) (source : String) (content : List UInt8) (template : Template) :
    Run × Option RunError :=
  match Table.ofBytes? content with
  | none => (run, some (.header source))
  | some table =>
    let plan := plan settings surroundings language run.tree template source table.header
    let (conversion, error) := convertRecords plan run.progress table.records
    let tree := store settings.outputDirectory run.tree conversion.chunks
    match error with
    | none =>
      let chunks := conversion.chunks.map (Chunk.report settings.outputDirectory)
      let tables := run.report.tables ++ [⟨source, chunks, conversion.unreadable⟩]
      ({ run with tree, report := { run.report with tables }, progress := conversion.progress },
        none)
    | some (.chunk name) =>
      ({ run with tree, progress := conversion.progress },
        some (.chunk source (Path.join settings.outputDirectory name)))
    | some (.record number cause) =>
      ({ run with tree, progress := conversion.progress }, some (.record source number cause))

def step (run : Run) (job : Job) : Run × Option RunError :=
  match run.tree.read? job.table, run.tree.isFile job.template with
  | some content, true =>
    match Template.load run.tree job.template with
    | .error cause => (run, some (.template job.template cause))
    | .ok template => run.convert settings surroundings language job.table content template
  | _, _ =>
    ({ run with report := { run.report with skipped := run.report.skipped ++ [job.table] } }, none)

def steps (run : Run) : List Job → Run × Option RunError
  | [] => (run, none)
  | job :: jobs =>
    match run.step settings surroundings language job with
    | (run, none) => steps run jobs
    | (run, some error) => (run, some error)

end Run

/-- Runs all jobs of the settings in a tree of files. -/
def runJobs (settings : Settings) (surroundings : Surroundings) (tree : FileTree) :
    Run × Option RunError :=
  match tree.makeDirectory? settings.outputDirectory with
  | none => ({ tree }, some (.outputDirectory settings.outputDirectory))
  | some tree' =>
    let language := settings.language surroundings tree
    Run.steps settings surroundings language { tree := tree' } settings.jobs

end RowTriples
