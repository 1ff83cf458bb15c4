import RowTriples.Conversion.Chunk
import RowTriples.Csv
/-!
# Converting the records of a table

Records are expanded one by one. A record that cannot be read is counted and skipped, and one whose
cells are all blank is skipped, but both have their number. A chunk is begun by the first row that
is to be written, before it is expanded, and it is finished when it holds enough rows. The first
error ends the conversion; what was written until then stays.
-/

namespace RowTriples

/-- What a table is converted with. -/
structure Plan where
  language : Language
  mode : Mode
  /-- The supply of random identifiers. -/
  fresh : Nat → String
  geocoder : Option Geocoder := none
  template : Template
  header : Header
  /-- The beginning of the names of the chunks. -/
  stem : String
  chunkSize : Nat
  /-- Whether no chunk of the given name can be created. -/
  refuses : String → Bool := fun _ => false

inductive ConversionError where
  /-- No chunk of the name can be created. -/
  | chunk (name : String)
  /-- The record with the number cannot be expanded. -/
  | record (number : Nat) (cause : ExpansionError)

structure Conversion where
  /-- The finished chunks, latest first. -/
  finished : List Chunk := []
  /-- The chunk that more rows are written to. -/
  current : Option Chunk := none
  unreadable : Nat := 0
  progress : Progress := {}

namespace Conversion

variable (plan : Plan) (c : Conversion)

/-- All chunks, in the order in which they were begun. -/
def chunks : List Chunk :=
  (c.current.toList ++ c.finished).reverse

/-- The chunk that the next row is written to. -/
def nextChunk : Chunk :=
  c.current.getD { name := Chunk.nameOf plan.stem c.finished.length }

/-- The conversion after a row has been written to the chunk that it was meant for. -/
def close (chunk : Chunk) : Conversion :=
  if plan.chunkSize ≤ chunk.rows then { c with finished := chunk :: c.finished, current := none }
  else { c with current := some chunk }

def setting (chunk : Chunk) (number : Nat) : Setting :=
  ⟨plan.language, plan.mode, plan.fresh, plan.geocoder, chunk.name, number⟩

/-- Expands the cells of the record with the given number into a chunk. -/
def write (number : Nat) (cells : List String) : Conversion × Option ConversionError :=
  let chunk := c.nextChunk plan
  if c.current.isNone && plan.refuses chunk.name then (c, some (.chunk chunk.name))
  else
    let cells := cells.map fun cell => Datum.text (Csv.flattened cell)
    match expandRow (setting plan chunk number) plan.template plan.header cells c.progress with
    | (.ok expansion, progress) => ({ c with progress }.close plan (chunk.add expansion), none)
    | (.error cause, progress) =>
      ({ c with current := some chunk, progress }, some (.record number cause))

def step (number : Nat) : Csv.Record → Conversion × Option ConversionError
  | none => ({ c with unreadable := c.unreadable + 1 }, none)
  | some cells => if cells.all Text.isBlankText then (c, none) else c.write plan number cells

def run (c : Conversion) (number : Nat) : List Csv.Record → Conversion × Option ConversionError
  | [] => (c, none)
  | record :: records =>
    match c.step plan number record with
    | (c, none) => run c (number + 1) records
    | (c, some error) => (c, some error)

end Conversion

def convertRecords (plan : Plan) (progress : Progress) (records : List Csv.Record) :
    Conversion × Option ConversionError :=
  Conversion.run plan { progress } 0 records

end RowTriples
