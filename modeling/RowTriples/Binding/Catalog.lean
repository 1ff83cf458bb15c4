import RowTriples.Binding.Basic
import RowTriples.Document.Decode
import RowTriples.Text.Blank
/-!
# The catalog of binding functions

A template declares a binding by the name of a function and a block of parameters. Both are settled
when the template is loaded: an unknown name, or parameters that do not fit the function, make the
template unusable.
-/

namespace RowTriples

inductive ParameterError where
  | decode (cause : DecodeError)
  | tooFewVertices
  | radiusNotPositive
  /-- A field of an object is not mapped to the name of a column. -/
  | notAColumn (field : String) (found : Json)

def ParameterError.message : ParameterError → String
  | .decode cause => cause.message
  | .tooFewVertices => "Vertices must be at least 3"
  | .radiusNotPositive => "Radius must be a positive number"
  | .notAColumn field found =>
    "Map entry \x60" ++ field ++ "\x60 must name a column, found " ++ found.compact

/-- Why a declared binding cannot be used. -/
inductive BindingError where
  | unknownFunction (binding function : String)
  | invalidData (binding function : String) (cause : ParameterError)

def BindingError.message : BindingError → String
  | .unknownFunction binding function =>
    "Binding function \x60" ++ function ++ "\x60 not found (declared by binding \x60" ++ binding ++
      "\x60)"
  | .invalidData binding function cause =>
    "Invalid DATA for binding \x60" ++ binding ++ "\x60 (" ++ function ++ "): " ++ cause.message

namespace Binding

/-- A number, or a text that holds one. -/
def asNumber (document : Document) : Decoded Float :=
  match document with
  | .number (.integer n _ _) => .ok (Float.ofInt n)
  | .number (.decimal x _) => .ok x
  | .text value => (Decimal.readFloat (Text.trimmed value)).mapError .notANumber
  | _ => .error (.noAlternative "Raw")

structure Function where
  name : String
  decode : Document → Except ParameterError Binding

/-- A function whose parameters fit as soon as they have their types. -/
def Function.of {α : Type} (name : String) (shape : RecordShape)
    (step : Nat → Document → α → Decoded α) (start : α)
    (binding : α → Except ParameterError Binding) : Function where
  name := name
  decode document :=
    match document.asRecord true shape step start with
    | .ok parameters => binding parameters
    | .error cause => .error (.decode cause)

def ofColumn (name record field : String) (binding : String → Binding) : Function :=
  .of name ⟨record, [{ name := field }]⟩ (fun _ d _ => d.asText) ""
    (fun column => .ok (binding column))

def ofTwoTexts (name record first second : String) (binding : String → String → Binding) :
    Function :=
  .of name ⟨record, [{ name := first }, { name := second }]⟩
    (fun i d (p : String × String) => do
      let text ← d.asText
      return if i = 0 then (text, p.2) else (p.1, text))
    ("", "") (fun p => .ok (binding p.1 p.2))

structure BufferParameters where
  column : String := ""
  radius : Float := 0.0
  vertices : Nat := 6

/-- A function for buffers around the points of coordinate pairs. -/
def ofBuffer (name record field : String) (order : CoordinateOrder) : Function :=
  .of name ⟨record,
    [{ name := field }, { name := "Radius" }, { name := "Vertices", optional := true }]⟩
    (fun i d (p : BufferParameters) => do
      if i = 0 then return { p with column := ← d.asText }
      else if i = 1 then return { p with radius := ← asNumber d }
      else return { p with vertices := ← d.asCount })
    {} fun p =>
      if p.vertices < 3 then .error .tooFewVertices
      else if !p.radius.isFinite || p.radius ≤ 0.0 then .error .radiusNotPositive
      else .ok (.buffer p.column order p.radius p.vertices)

structure SplitParameters where
  column : String := ""
  delimiter : String := ""
  index : Option Int64 := none

def ofSplit (name : String) (binding : SplitParameters → Except ParameterError Binding) :
    Function :=
  .of name
    ⟨"SplitParams",
      [{ name := "Column" }, { name := "Delimiter" }, { name := "Index", optional := true }]⟩
    (fun i d (p : SplitParameters) => do
      if i = 0 then return { p with column := ← d.asText }
      else if i = 1 then return { p with delimiter := ← d.asText }
      else return { p with index := ← d.asOption Document.asInt64 })
    {} binding

def combineColumns : Function :=
  .of "CombineColumns" ⟨"JoinColumns", [{ name := "Columns" }, { name := "Delimiter" }]⟩
    (fun i d (p : List String × String) => do
      if i = 0 then return (← d.asList Document.asText, p.2) else return (p.1, ← d.asText))
    ([], "") (fun p => .ok (.join p.1 p.2))

def echo : Function :=
  .of "Echo" ⟨"EchoParams", [{ name := "Echostring" }]⟩ (fun _ d _ => d.asJson) .null
    (fun value => .ok (.constant value))

def replacement : Function :=
  .of "Replace" ⟨"ReplaceParams", [{ name := "Column" }, { name := "Key" }, { name := "Value" }]⟩
    (fun i d (p : String × String × String) => do
      let text ← d.asText
      return if i = 0 then (text, p.2) else if i = 1 then (p.1, text, p.2.2)
        else (p.1, p.2.1, text))
    ("", "", "") (fun p => .ok (.replace p.1 p.2.1 p.2.2))

def offsetDate : Function :=
  .of "OffsetDate" ⟨"OffsetParams", [{ name := "DateCol" }, { name := "Offset" }]⟩
    (fun i d (p : String × Float) => do
      if i = 0 then return (← d.asText, p.2) else return (p.1, ← asNumber d))
    ("", 0.0) (fun p => .ok (.shift p.1 p.2))

def objectTemplate : Function :=
  .of "ObjectTemplate" ⟨"RawObjectTemplate",
    [{ name := "Obj", optional := true }, { name := "Map" }]⟩
    (fun i d (p : Entries Json × Entries Json) => do
      let fields ← d.asNamed Document.asJson
      return if i = 0 then (fields, p.2) else (p.1, fields))
    ([], []) fun (fields, map) => do
      let columns ← map.mapM fun (name, value) =>
        match value with
        | .string column => Except.ok (name, column)
        | other => .error (.notAColumn name other)
      return .fill fields columns

/-- All functions, in the order of their names. -/
def catalog : List Function :=
  [combineColumns,
    ofTwoTexts "Concatenate" "ConcatParams" "ColumnA" "ColumnB" .concatenate,
    ofTwoTexts "DeterministicUUID" "HashedIdentifier" "Identifier" "Salt" .contentId,
    ofColumn "DownCase" "ColumnParam" "Column" (.changeCase · .lower),
    echo,
    ofColumn "GeoJSONFromCombinedLatLon" "LatLonColumn" "LatLon" (.pairedPoint · .latitudeFirst),
    ofColumn "GeoJSONFromCombinedLonLat" "LonLatColumn" "LonLat" (.pairedPoint · .longitudeFirst),
    ofTwoTexts "GeoJSONFromLatLon" "LatLonColumns" "Latitude" "Longitude" .point,
    ofBuffer "GeoJSONHexFromCombinedLatLon" "LatLonBuffer" "LatLon" .latitudeFirst,
    ofBuffer "GeoJSONHexFromCombinedLonLat" "LonLatBuffer" "LonLat" .longitudeFirst,
    objectTemplate,
    offsetDate,
    ofColumn "ProperCase" "ColumnParam" "Column" (.changeCase · .proper),
    replacement,
    ofSplit "SplitColumn" fun p => .ok (.split p.column p.delimiter none),
    ofSplit "SplitIndex" fun p =>
      match p.index with
      | some index => .ok (.split p.column p.delimiter (some index))
      | none => .error (.decode (.missingField "Index")),
    ofTwoTexts "TernaryBool" "EqualsParams" "Column" "True" .equals,
    ofColumn "UnixTimestamp" "DateColumn" "DateCol" .unixTime,
    ofColumn "UpCase" "ColumnParam" "Column" (.changeCase · .upper)]

def functionNames : List String :=
  catalog.map (·.name)

/-- The binding that a name, a function and a parameter block declare. -/
def ofDeclaration (name function : String) (data : Json) : Except BindingError Binding :=
  match catalog.find? (·.name = function) with
  | none => .error (.unknownFunction name function)
  | some f => (f.decode (.ofJson data)).mapError (.invalidData name function)

end Binding

end RowTriples
