import RowTriples.Json.Printer
/-!
# Canonical JSON

Identifiers are digests of JSON texts, and the order in which a program happens to build an
object's fields must not change them. The canonical form of a value has the fields of every object
in the order of their names; its text is the compact one. Names are compared by code points,
which is the order of their UTF-8 bytes.
-/

namespace RowTriples.Json

/-- A field put in front of the first one whose name is not smaller. -/
def insertField (field : String × Json) : List (String × Json) → List (String × Json)
  | [] => [field]
  | other :: fields =>
    if other.1 < field.1 then other :: insertField field fields else field :: other :: fields

mutual

/-- The value with the fields of every object in the order of their names. -/
def canonical : Json → Json
  | .null => .null
  | .bool value => .bool value
  | .number value => .number value
  | .string value => .string value
  | .array items => .array (canonicalItems items)
  | .object fields => .object (canonicalFields fields)

def canonicalItems : List Json → List Json
  | [] => []
  | item :: items => canonical item :: canonicalItems items

/-- The fields in the order of their names, each value in canonical form. -/
def canonicalFields : List (String × Json) → List (String × Json)
  | [] => []
  | (name, value) :: fields => insertField (name, canonical value) (canonicalFields fields)

end

def canonicalText (value : Json) : String :=
  (canonical value).compact

end RowTriples.Json
