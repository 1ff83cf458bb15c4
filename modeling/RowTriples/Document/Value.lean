import RowTriples.Document.Scalar
/-!
# Documents as JSON values
-/

namespace RowTriples.Document

/-- A document without plain scalars at its root: what the scalar denotes stands in its place. -/
def resolved : Document → Document
  | .plain value => resolve value
  | document => document

def leaf? : Document → Option Json
  | .null => some .null
  | .bool value => some (.bool value)
  | .number value => some (.number value)
  | .text value => some (.string value)
  | _ => none

mutual

/-- The JSON value of a document, if every part has a value. Of a repeated field the last value
counts, in the first place. -/
def json? : Document → Option Json
  | .sequence items => (jsonItems? items).map .array
  | .map entries => (jsonFields? entries).map fun fields => .object (Entries.ofList fields)
  | .plain value => (resolve value).leaf?
  | .tagged tag (.plain value) | .tagged tag (.text value) => taggedScalar? tag value
  | .tagged (.own _) _ => none
  | .tagged _ document => json? document
  | .null => some .null
  | .bool value => some (.bool value)
  | .number value => some (.number value)
  | .text value => some (.string value)
  | .unusable => none

def jsonItems? : List Document → Option (List Json)
  | [] => some []
  | item :: items => do return (← json? item) :: (← jsonItems? items)

/-- The JSON values of fields, repeated ones included. -/
def jsonFields? : List (String × Document) → Option (List (String × Json))
  | [] => some []
  | (name, value) :: entries => do return (name, ← json? value) :: (← jsonFields? entries)

end

mutual

/-- The number of sequences and maps around the innermost part of a document. -/
def depth : Document → Nat
  | .sequence items => depthOfItems items + 1
  | .map entries => depthOfEntries entries + 1
  | .tagged _ document => depth document
  | _ => 0

def depthOfItems : List Document → Nat
  | [] => 0
  | item :: items => max (depth item) (depthOfItems items)

def depthOfEntries : List (String × Document) → Nat
  | [] => 0
  | (_, value) :: entries => max (depth value) (depthOfEntries entries)

end

end RowTriples.Document
