import RowTriples.Binding.Basic
import RowTriples.Digest.Content
import RowTriples.Geodesy
import RowTriples.Row
import RowTriples.Text.Blank
import RowTriples.Text.Case
import RowTriples.Text.Pieces
import RowTriples.Time.Pattern
/-!
# Values of bindings

A binding whose columns are missing or malformed has no value. `evaluate` then gives the null, so
that deriving a column never fails.
-/

namespace RowTriples

/-! ### Geometries -/

namespace Geometry

/-- A geometry of a type with coordinates. -/
def ofCoordinates (type : String) (coordinates : Json) : Entries Json :=
  [("type", .string type), ("coordinates", coordinates)]

/-- A position: longitude, then latitude. -/
def position (longitude latitude : Float) : Json :=
  .array [.ofFloat longitude, .ofFloat latitude]

def point (longitude latitude : Float) : Entries Json :=
  ofCoordinates "Point" (position longitude latitude)

/-- A polygon with one ring. -/
def polygon (ring : List (Float × Float)) : Entries Json :=
  ofCoordinates "Polygon" (.array [.array (ring.map fun (lon, lat) => position lon lat)])

end Geometry

namespace Row

variable (row : Row)

/-- The text of a column. Missing values have none, and lists and objects are not text. -/
def columnText? (name : String) : Option String :=
  match row.get? name with
  | none | some .null | some (.list _) | some (.object _) => none
  | some value => some value.plainText

end Row

namespace Binding

/-- A finite number. -/
def coordinate? (text : List Char) : Option Float :=
  match Decimal.readFloat (String.ofList (Text.trim text)) with
  | .ok x => if x.isFinite then some x else none
  | .error _ => none

def isEnclosing (c : Char) : Bool :=
  c = '(' || c = ')' || c = '[' || c = ']'

/-- The two numbers of a coordinate pair, which are separated by commas and white space and may be
enclosed; what follows the second one does not count. The latitude comes first in the result. -/
def coordinates? (order : CoordinateOrder) (text : String) : Option (Float × Float) :=
  let inner := Text.dropAroundWhile isEnclosing (Text.trim text.toList)
  match Text.words (fun c => Text.isBlank c || c = ',') inner with
  | a :: b :: _ => do
    let a ← coordinate? a
    let b ← coordinate? b
    match order with
    | .latitudeFirst => return (a, b)
    | .longitudeFirst => return (b, a)
  | _ => none

/-- The piece at an index; negative indices count from the end. -/
def pieceAt? (index : Int) (pieces : List String) : Option String :=
  let position := if index < 0 then pieces.length + index else index
  if position < 0 then none else pieces[position.toNat]?

/-- The text in another case. Empty text has no proper form. -/
def changedCase? (form : CaseForm) (text : String) : Option String :=
  let cs := text.toList
  match form with
  | .upper => some (String.ofList (Text.upper cs))
  | .lower => some (String.ofList (Text.lower cs))
  | .proper => (Text.proper? cs).map String.ofList

def timestamp? : Datum → Option Time.Timestamp
  | .timestamp t => some t
  | .text s => (Time.readInstant? s).map (·.universal)
  | _ => none

/-- A number of seconds in whole milliseconds, a half away from zero, within the 64-bit range. The
least number of that range is no duration. -/
def milliseconds? (seconds : Float) : Option Int :=
  let millis := seconds * 1000.0
  if millis.isFinite then
    let n := (Decimal.saturated (Decimal.Binary.ofFloat millis).nearest).toInt
    if n = -Int.pow 2 63 then none else some n
  else none

def value? (row : Row) : Binding → Option Datum
  | .point latitude longitude => do
    let lat ← coordinate? (← row.columnText? latitude).toList
    let lon ← coordinate? (← row.columnText? longitude).toList
    return .object (Geometry.point lon lat)
  | .pairedPoint column order => do
    let (lat, lon) ← coordinates? order (← row.columnText? column)
    return .object (Geometry.point lon lat)
  | .buffer column order radius vertices => do
    let (lat, lon) ← coordinates? order (← row.columnText? column)
    return .object (Geometry.polygon (Geodesy.bufferRing lat lon vertices radius))
  | .contentId identifier salt => do
    return .text (Digest.contentId ((← row.columnText? identifier) ++ salt))
  | .constant value => some (.ofJson value)
  | .join columns delimiter => do
    let texts ← columns.mapM row.columnText?
    return .text (String.ofList (Text.joinWith delimiter.toList (texts.map String.toList)))
  | .split column delimiter index =>
    if delimiter.isEmpty then none
    else do
      let pieces := Text.splitAt delimiter (← row.columnText? column)
      match index with
      | none => return .list (pieces.map .text)
      | some index => return .text (← pieceAt? index.toInt pieces)
  | .equals column expected => do return .boolean ((← row.columnText? column) = expected)
  | .replace column old new => do
    let text ← row.columnText? column
    return .text (String.ofList (Text.replace old.toList new.toList text.toList))
  | .changeCase column form => do return .text (← changedCase? form (← row.columnText? column))
  | .concatenate first second => do
    let a ← row.columnText? first
    let b ← row.columnText? second
    return .text (a ++ b)
  | .shift column seconds => do
    let start ← timestamp? (← row.get? column)
    return .timestamp (← start.shift? (← milliseconds? seconds))
  | .unixTime column =>
    match (row.columnText? column).map fun text => Decimal.readInt64 (Text.trimmed text) with
    | some (.ok seconds) =>
      (Time.Timestamp.ofSeconds? seconds.toInt 0).map fun t => .text t.spacedText
    | _ => none
  | .fill fields columns => do
    let values ← columns.mapM fun (name, column) => do return (name, ← row.get? column)
    return .object
      (values.foldl (fun acc (name, value) => Entries.put name value.toJson acc) fields)

/-- The value of a binding for a row, null if there is none. -/
def evaluate (row : Row) (binding : Binding) : Datum :=
  (binding.value? row).getD .null

end Binding

end RowTriples
