import RowTriples.Datum
import RowTriples.Json.Parser
import RowTriples.NTriples
import RowTriples.Schema
import RowTriples.Time.Pattern
/-!
# Literals of values

The range that a property declares decides the literal of its values. Where none is declared the
shape of the value decides. A value that does not fit has no literal, and the error tells why; the
statement it was meant for is left out.
-/

namespace RowTriples

/-- What the name of a declared range stands for. Ranges of lists and sets are those of their
items. -/
inductive Range where
  | dateTime
  | decimal
  | integer
  | text
  | boolean
  | geoJson
  | other (name : String)
  deriving DecidableEq

def Range.ofName (name : String) : Range :=
  if name = "DateTime" then .dateTime
  else if name ∈ ["Decimal", "DecimalList", "DecimalSet"] then .decimal
  else if name ∈ ["Integer", "IntegerList", "IntegerSet"] then .integer
  else if name ∈ ["String", "StringList", "StringSet"] then .text
  else if name = "Boolean" then .boolean
  else if name = "GeoJSON" then .geoJson
  else .other name

inductive Misfit where
  | unrecognizedTimestamp
  | notTimestamp
  | number (cause : Decimal.FloatError)
  | notNumber
  | notFinite
  | integer (cause : Decimal.IntegerError)
  | notInteger
  | noValue
  | notBooleanWord
  | notBoolean
  | notJsonObject
  | notGeometry
  | noSingleLiteral
  deriving DecidableEq

def Misfit.reason : Misfit → String
  | .unrecognizedTimestamp => "unrecognized timestamp"
  | .notTimestamp => "not a timestamp"
  | .number cause => cause.message
  | .notNumber => "not a number"
  | .notFinite => "non-finite number"
  | .integer cause => cause.message
  | .notInteger => "not an integer"
  | .noValue => "no value"
  | .notBooleanWord => "not a boolean word"
  | .notBoolean => "not a boolean"
  | .notJsonObject => "not a JSON object"
  | .notGeometry => "not a geometry"
  | .noSingleLiteral => "value has no single literal form"

structure CoercionError where
  property : String
  value : String
  target : String
  misfit : Misfit
  deriving DecidableEq

def CoercionError.message (e : CoercionError) : String :=
  "Cannot type \x60" ++ e.value ++ "\x60 for property \x60" ++ e.property ++ "\x60 as " ++
    e.target ++ ": " ++ e.misfit.reason

namespace Typing

def xsd (name : String) : String :=
  xsdNamespace ++ name

/-- The property whose values of unknown ranges are kept as JSON text. -/
def jsonTextProperty : String := "metaData"

def double (x : Float) : Except Misfit String :=
  if x.isFinite then .ok (NTriples.typedLiteral (Decimal.Layout.plain.text x) (xsd "double"))
  else .error .notFinite

def integer (n : Int64) : String :=
  NTriples.typedLiteral (toString n.toInt) (xsd "integer")

def boolean (b : Bool) : String :=
  NTriples.typedLiteral (Datum.boolText b) (xsd "boolean")

def dateTime (text : String) : String :=
  NTriples.typedLiteral text (xsd "dateTime")

def geoJson (vocabulary : Vocabulary) (fields : Entries Json) : String :=
  NTriples.typedLiteral (Json.object fields).compact (vocabulary.expand "GeoJSON")

/-- The truth value that a word stands for, in letters of either case. -/
def flag? (text : String) : Option Bool :=
  let word := String.ofList ((Text.trim text.toList).map Char.toLower)
  if word ∈ ["true", "1", "yes", "t", "y"] then some true
  else if word ∈ ["false", "0", "no", "f", "n"] then some false
  else none

def declared (vocabulary : Vocabulary) (property : String) (value : Datum) :
    Range → Except Misfit String
  | .dateTime =>
    match value with
    | .timestamp t => .ok (dateTime t.text)
    | .text s =>
      match Time.readInstant? s with
      | some (.floating wall) => .ok (dateTime wall.text)
      | some (.zoned wall offset _) => .ok (dateTime (wall.zonedText offset))
      | none => .error .unrecognizedTimestamp
    | _ => .error .notTimestamp
  | .decimal =>
    match value with
    | .decimal x => double x
    | .integer n => double (Float.ofInt n.toInt)
    | .text s =>
      match Decimal.readFloat (Text.trimmed s) with
      | .ok x => double x
      | .error cause => .error (.number cause)
    | _ => .error .notNumber
  | .integer =>
    match value with
    | .integer n => .ok (integer n)
    | .decimal x =>
      if x.isFinite then .ok (integer (Decimal.saturated (Decimal.Binary.ofFloat x).truncate))
      else .error .notInteger
    | .text s =>
      match Decimal.readInt64 (Text.trimmed s) with
      | .ok n => .ok (integer n)
      | .error cause => .error (.integer cause)
    | _ => .error .notInteger
  | .text =>
    match value with
    | .null => .error .noValue
    | value => .ok (NTriples.plainLiteral value.plainText)
  | .boolean =>
    match value with
    | .boolean b => .ok (boolean b)
    | .integer n =>
      if n = 0 then .ok (boolean false) else if n = 1 then .ok (boolean true)
      else .error .notBoolean
    | .text s =>
      match flag? s with
      | some b => .ok (boolean b)
      | none => .error .notBooleanWord
    | _ => .error .notBoolean
  | .geoJson =>
    match value with
    | .object fields => .ok (geoJson vocabulary fields)
    | .text s =>
      match Json.parse? s with
      | some (.object fields) => .ok (geoJson vocabulary fields)
      | _ => .error .notJsonObject
    | _ => .error .notGeometry
  | .other name =>
    if property = jsonTextProperty then .ok (NTriples.plainLiteral value.toJson.compact)
    else .ok (NTriples.typedLiteral value.plainText (vocabulary.expand name))

/-- The literal of a value by its own shape. An error comes with the name of what was aimed at. -/
def native (vocabulary : Vocabulary) : Datum → Except (String × Misfit) String
  | .text s => .ok (NTriples.plainLiteral s)
  | .integer n => .ok (integer n)
  | .decimal x => (double x).mapError ("double", ·)
  | .boolean b => .ok (boolean b)
  | .timestamp t => .ok (dateTime t.text)
  | .object fields => .ok (geoJson vocabulary fields)
  | .null | .list _ => .error ("literal", .noSingleLiteral)

/-- The literal of a single value for a property, which is told by its local name or by its full
IRI. -/
def literal (schema : Schema) (vocabulary : Vocabulary) (property : String) (value : Datum) :
    Except CoercionError String :=
  let property := vocabulary.localName property
  match schema.declared? property with
  | some range =>
    (declared vocabulary property value (.ofName range)).mapError fun misfit =>
      ⟨property, value.plainText, range, misfit⟩
  | none =>
    (native vocabulary value).mapError fun (target, misfit) =>
      ⟨property, value.plainText, target, misfit⟩

end Typing

end RowTriples
