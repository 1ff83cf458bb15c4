import RowTriples.Document.Value
import RowTriples.Json.Printer
import RowTriples.Text.Pieces
import RowTriples.Text.Quoted
/-!
# Giving types to documents

A decoder takes a document to a value of its type or tells why it does not fit. Records are written
as maps; the fields are decoded in the order in which they are written, unknown fields are ignored,
and missing ones are noticed at the end, in the order of their declaration. In JSON a record may
also be written as the sequence of its fields.
-/

namespace RowTriples

inductive DecodeError where
  | invalidType (found expected : String)
  | invalidValue (found expected : String)
  | invalidLength (length : Nat) (expected : String)
  | missingField (name : String)
  | duplicateField (name : String)
  /-- None of the alternatives of a choice fits. -/
  | noAlternative (choice : String)
  | notANumber (cause : Decimal.FloatError)
  /-- A name that is none of the given ones. -/
  | unknownName (name : String) (choices : List String)
  deriving DecidableEq

def DecodeError.message : DecodeError → String
  | .invalidType found expected => "invalid type: " ++ found ++ ", expected " ++ expected
  | .invalidValue found expected => "invalid value: " ++ found ++ ", expected " ++ expected
  | .invalidLength length expected =>
    "invalid length " ++ toString length ++ ", expected " ++ expected
  | .missingField name => "missing field \x60" ++ name ++ "\x60"
  | .duplicateField name => "duplicate field \x60" ++ name ++ "\x60"
  | .noAlternative choice => "data did not match any variant of untagged enum " ++ choice
  | .notANumber cause => cause.message
  | .unknownName name choices =>
    "unknown variant \x60" ++ name ++ "\x60, expected one of " ++
      ", ".intercalate (choices.map fun choice => "\x60" ++ choice ++ "\x60")

abbrev Decoded (α : Type) := Except DecodeError α

structure RecordField where
  name : String
  /-- Another spelling of the name. -/
  alias? : Option String := none
  optional : Bool := false

/-- The name and the fields of a record, in the order of their declaration. -/
structure RecordShape where
  name : String
  fields : List RecordField

namespace RecordShape

variable (shape : RecordShape)

/-- The number of the field with the given name. -/
def index? (name : String) : Option Nat :=
  shape.fields.findIdx? fun field => field.name = name || field.alias? = some name

/-- What is expected where the record is given as a sequence that is too short. -/
def sequenceText : String :=
  let n := shape.fields.length
  "struct " ++ shape.name ++ " with " ++ toString n ++ (if n = 1 then " element" else " elements")

/-- The first field that has to be there and is not, with its number. -/
def missing? (seen : List Nat) : Option (Nat × RecordField) :=
  (shape.fields.zipIdx.find? fun (field, i) => !field.optional && !seen.contains i).map
    fun (field, i) => (i, field)

/-- Decodes the fields of a map in the order in which they are written. -/
def decodeEntries {α : Type} (step : Nat → Document → α → Decoded α) (seen : List Nat) (acc : α) :
    List (String × Document) → Decoded (List Nat × α)
  | [] => .ok (seen, acc)
  | (name, value) :: entries =>
    match shape.index? name with
    | none => decodeEntries step seen acc entries
    | some i =>
      if seen.contains i then .error (.duplicateField ((shape.fields[i]?.map (·.name)).getD name))
      else
        match step i value acc with
        | .error e => .error e
        | .ok acc => decodeEntries step (i :: seen) acc entries

/-- Decodes the items of a sequence as the fields of the record from the given number on. -/
def decodeItems {α : Type} (step : Nat → Document → α → Decoded α) (total : Nat) (i : Nat)
    (acc : α) : List Document → Decoded α
  | [] =>
    match shape.missing? (List.range i) with
    | some (j, _) => .error (.invalidLength j shape.sequenceText)
    | none => .ok acc
  | item :: items =>
    if i < shape.fields.length then
      match step i item acc with
      | .error e => .error e
      | .ok acc => decodeItems step total (i + 1) acc items
    else .error (.invalidLength total "fewer elements in array")

end RecordShape

namespace Document

/-- What a document is, in the words of an error. -/
def description : Document → String
  | .null => "null"
  | .bool value => "boolean \x60" ++ (if value then "true" else "false") ++ "\x60"
  | .number (.integer n _ _) => "integer \x60" ++ toString n ++ "\x60"
  | .number (.decimal x _) => "floating point \x60" ++ Decimal.Layout.json.finite x ++ "\x60"
  | .text value => "string " ++ Text.quoted value
  | .plain value => "string " ++ Text.quoted value
  | .unusable => "unusable value"
  | .sequence _ => "sequence"
  | .map _ => "map"
  | .tagged _ document => description document

/-- The error for a document of another kind than expected. -/
def mismatch {α : Type} (document : Document) (expected : String) : Decoded α :=
  .error (.invalidType document.content.resolved.description expected)

/-- A text. Plain scalars are taken as they are written. -/
def asText (document : Document) : Decoded String :=
  match document.content with
  | .text value => .ok value
  | .plain value => .ok value
  | document => document.mismatch "a string"

def asBool (document : Document) : Decoded Bool :=
  match document.content.resolved with
  | .bool value => .ok value
  | other => other.mismatch "a boolean"

/-- An integer from `-below` to `above` of the type with the given name. -/
def asInteger (typeName : String) (below above : Nat) (document : Document) : Decoded Int :=
  match document.content.resolved with
  | .number (.integer n _ _) =>
    if -(below : Int) ≤ n ∧ n ≤ above then .ok n
    else .error (.invalidValue (document.content.resolved.description) typeName)
  | other => other.mismatch typeName

/-- An unsigned 64-bit integer. A plain scalar has no minus sign, not even in front of zero. -/
def asCount (document : Document) : Decoded Nat :=
  match document.content with
  | .plain value =>
    if Text.startsWith "-" value then document.mismatch "usize"
    else Int.toNat <$> document.asInteger "usize" 0 (Nat.pow 2 64 - 1)
  | document => Int.toNat <$> document.asInteger "usize" 0 (Nat.pow 2 64 - 1)

def asInt64 (document : Document) : Decoded Int64 :=
  Int64.ofInt <$> document.asInteger "i64" (Nat.pow 2 63) (Nat.pow 2 63 - 1)

def asJson (document : Document) : Decoded Json :=
  match document.json? with
  | some value => .ok value
  | none => .error (.invalidType "unusable value" "any valid JSON value")

/-- An optional value; a null stands for none. A tag that asks for a null has to have one. -/
def asOption {α : Type} (decode : Document → Decoded α) (document : Document) :
    Decoded (Option α) :=
  match document with
  | .null => .ok none
  | .tagged .null (.plain value) =>
    if (taggedScalar? .null value).isSome then .ok none else document.mismatch "null"
  | .plain value => if isNullWord value then .ok none else some <$> decode document
  | document => some <$> decode document

/-- The items of a sequence. Nothing at all stands for an empty one. -/
def asItems (document : Document) : Decoded (List Document) :=
  match document.content with
  | .sequence items => .ok items
  | .plain "" => .ok []
  | document => document.mismatch "a sequence"

/-- The entries of a map. Nothing at all stands for an empty one. -/
def asEntries (document : Document) : Decoded (List (String × Document)) :=
  match document.content with
  | .map entries => .ok entries
  | .plain "" => .ok []
  | document => document.mismatch "a map"

def asList {α : Type} (decode : Document → Decoded α) (document : Document) : Decoded (List α) := do
  (← document.asItems).mapM decode

/-- Values under names; of a repeated name the last value counts, in the first place. -/
def asNamed {α : Type} (decode : Document → Decoded α) (document : Document) :
    Decoded (Entries α) := do
  let entries ← (← document.asEntries).mapM fun (name, value) => do return (name, ← decode value)
  return Entries.ofList entries

def asPair {α β : Type} (first : Document → Decoded α) (second : Document → Decoded β)
    (document : Document) : Decoded (α × β) :=
  let expected := "a tuple of size 2"
  let pair : List Document → Decoded (α × β)
    | [] => .error (.invalidLength 0 expected)
    | a :: rest => do
      let a ← first a
      match rest with
      | [] => .error (.invalidLength 1 expected)
      | b :: more =>
        let b ← second b
        if more.isEmpty then return (a, b)
        else .error (.invalidLength (more.length + 2) "fewer elements in array")
  match document.content with
  | .sequence items => pair items
  | .plain "" => pair []
  | document => document.mismatch expected

/-- A record, built by setting its fields one by one in `start`. Its fields may be written as a
sequence if `positional` holds. -/
def asRecord {α : Type} (positional : Bool) (shape : RecordShape)
    (step : Nat → Document → α → Decoded α) (start : α) (document : Document) : Decoded α :=
  let ofEntries (entries : List (String × Document)) : Decoded α := do
    let (seen, value) ← shape.decodeEntries step [] start entries
    match shape.missing? seen with
    | some (_, field) => .error (.missingField field.name)
    | none => return value
  match document.content with
  | .map entries => ofEntries entries
  | .plain "" => ofEntries []
  | .sequence items =>
    if positional then shape.decodeItems step items.length 0 start items
    else document.mismatch ("struct " ++ shape.name)
  | document => document.mismatch ("struct " ++ shape.name)

end Document

end RowTriples
