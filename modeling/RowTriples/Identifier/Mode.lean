import RowTriples.Text.Blank
/-!
# Modes of identification

Entities get their identifiers row by row, or from their content: within one output file, or
everywhere.
-/

namespace RowTriples

/-- How the identifiers of entities are chosen. -/
inductive Mode where
  /-- Anew for every row. -/
  | none
  /-- By content, apart from that of other output files. -/
  | file
  /-- By content alone. -/
  | global
  deriving DecidableEq, Repr

/-- A word that names no mode, in upper case. -/
structure ModeError where
  word : String
  deriving DecidableEq

def ModeError.message (e : ModeError) : String :=
  "invalid deterministic id mode '" ++ e.word ++ "' (expected NONE, FILE or GLOBAL)"

namespace Mode

/-- Whether identifiers depend on content. -/
def isDeterministic (mode : Mode) : Bool :=
  mode ≠ .none

def name : Mode → String
  | .none => "NONE"
  | .file => "FILE"
  | .global => "GLOBAL"

def named? (name : String) : Option Mode :=
  if name = "NONE" then some .none
  else if name = "FILE" then some .file
  else if name = "GLOBAL" then some .global
  else Option.none

/-- The mode that a word stands for, in letters of either case; no word at all and the word for
falsehood stand for `none`. -/
def read (word : String) : Except ModeError Mode :=
  let upper := String.ofList ((Text.trim word.toList).map Char.toUpper)
  if upper = "" ∨ upper = "FALSE" then .ok .none
  else
    match named? upper with
    | some mode => .ok mode
    | Option.none => .error ⟨upper⟩

end Mode

end RowTriples
