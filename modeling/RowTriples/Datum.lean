import RowTriples.Json.Printer
import RowTriples.Time.Text
/-!
# Values of a row

Cells arrive as text; derived columns bring numbers, truth values, timestamps, lists and objects.
A `Datum` keeps the shape of its value, from which a literal form is chosen where the schema
declares none. The texts of a value and its JSON form are used for concatenation and for digests.
-/

namespace RowTriples

/-- A value of a row. -/
inductive Datum where
  /-- A value that is missing or could not be derived. -/
  | null
  | text (value : String)
  | integer (value : Int64)
  | decimal (value : Float)
  | boolean (value : Bool)
  | timestamp (value : Time.Timestamp)
  /-- Several values, each of which gives a statement of its own. -/
  | list (items : List Datum)
  /-- A structured value, such as a geometry. -/
  | object (fields : List (String × Json))

namespace Datum

instance : Inhabited Datum := ⟨.null⟩

/-- Whether the value never gives a statement. An empty list is not empty in this sense. -/
def isEmpty : Datum → Bool
  | .null => true
  | .text value => value.isEmpty
  | _ => false

def text? : Datum → Option String
  | .text value => some value
  | _ => none

mutual

def toJson : Datum → Json
  | .null => .null
  | .text value => .string value
  | .integer value => .number (.ofInt64 value)
  | .decimal value => .ofFloat value
  | .boolean value => .bool value
  | .timestamp value => .string value.text
  | .list items => .array (listToJson items)
  | .object fields => .object fields

def listToJson : List Datum → List Json
  | [] => []
  | item :: items => toJson item :: listToJson items

end

/-- The value of a JSON number: an integer if it is in the signed 64-bit range, else a float. -/
def ofNumber : Json.Number → Datum
  | .integer n _ _ =>
    if n < Int.pow 2 63 then .integer (Int64.ofInt n) else .decimal (Float.ofInt n)
  | .decimal x _ => .decimal x

mutual

def ofJson : Json → Datum
  | .null => .null
  | .bool value => .boolean value
  | .number value => ofNumber value
  | .string value => .text value
  | .array items => .list (listOfJson items)
  | .object fields => .object fields

def listOfJson : List Json → List Datum
  | [] => []
  | item :: items => ofJson item :: listOfJson items

end

def boolText (value : Bool) : String :=
  if value then "true" else "false"

/-- The bare text of a value, as it is written into other texts. A missing value has none; lists and
objects have their compact JSON text. -/
def plainText : Datum → String
  | .null => ""
  | .text value => value
  | .integer value => toString value.toInt
  | .decimal value => Decimal.Layout.plain.text value
  | .boolean value => boolText value
  | .timestamp value => value.text
  | .list items => (toJson (.list items)).compact
  | .object fields => (Json.object fields).compact

/-- The values that a value stands for: the items of a list, or the value itself. -/
def items : Datum → List Datum
  | .list items => items
  | value => [value]

end Datum

end RowTriples
