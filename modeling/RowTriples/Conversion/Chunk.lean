import RowTriples.Digest.Content
import RowTriples.Entity.Expansion
import RowTriples.NTriples
import RowTriples.Storage.Path
/-!
# Chunks

The output of a table is written in chunks, files that hold the statements of a bounded number of
rows. A row one of whose statements cannot be written counts as a row but contributes nothing.
-/

namespace RowTriples

/-- What is written to one file. -/
structure Chunk where
  name : String
  text : String := ""
  rows : Nat := 0
  statements : Nat := 0
  diagnostics : Nat := 0

namespace Chunk

def nameOf (stem : String) (number : Nat) : String :=
  stem ++ "_" ++ toString number ++ ".nt"

def add (chunk : Chunk) (expansion : Expansion) : Chunk :=
  let text := NTriples.renderOrNothing expansion.statements
  { chunk with
    text := chunk.text ++ text
    rows := chunk.rows + 1
    statements := chunk.statements + if text.isEmpty then 0 else expansion.statements.length
    diagnostics := chunk.diagnostics + expansion.diagnostics.length }

@[simp] theorem name_add (chunk : Chunk) (expansion : Expansion) :
    (chunk.add expansion).name = chunk.name := rfl

@[simp] theorem rows_add (chunk : Chunk) (expansion : Expansion) :
    (chunk.add expansion).rows = chunk.rows + 1 := rfl

theorem text_add (chunk : Chunk) (expansion : Expansion) :
    (chunk.add expansion).text = chunk.text ++ NTriples.renderOrNothing expansion.statements := rfl

end Chunk

structure ChunkReport where
  path : String
  rows : Nat
  statements : Nat
  diagnostics : Nat
  /-- The digest of the chunk's text. -/
  checksum : String
  deriving DecidableEq

def Chunk.report (directory : String) (chunk : Chunk) : ChunkReport :=
  ⟨Path.join directory chunk.name, chunk.rows, chunk.statements, chunk.diagnostics,
    Digest.checksum chunk.text⟩

end RowTriples
