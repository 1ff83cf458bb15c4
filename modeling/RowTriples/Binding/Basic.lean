import RowTriples.Json.Basic
/-!
# Bindings

A binding derives the value of a new column from the columns of a row. There is one constructor for
every kind of derivation.
-/

namespace RowTriples

/-- Which of the two numbers of a coordinate pair comes first. -/
inductive CoordinateOrder where
  | latitudeFirst
  | longitudeFirst
  deriving DecidableEq

inductive CaseForm where
  | proper
  | upper
  | lower
  deriving DecidableEq

/-- A way to derive a value from a row. -/
inductive Binding where
  /-- A point from two columns. -/
  | point (latitude longitude : String)
  /-- A point from a column that holds a coordinate pair. -/
  | pairedPoint (column : String) (order : CoordinateOrder)
  /-- A polygon around the point of a coordinate pair. The radius is in metres. -/
  | buffer (column : String) (order : CoordinateOrder) (radius : Float) (vertices : Nat)
  /-- The content identifier of a column's text followed by a salt. -/
  | contentId (identifier salt : String)
  /-- A fixed value. -/
  | constant (value : Json)
  /-- The texts of several columns with a delimiter between them. -/
  | join (columns : List String) (delimiter : String)
  /-- The pieces of a text, or one of them; negative numbers count from the end. -/
  | split (column delimiter : String) (index : Option Int64)
  /-- Whether a text is the expected one. -/
  | equals (column expected : String)
  /-- A text with all occurrences of a part replaced. -/
  | replace (column old new : String)
  | changeCase (column : String) (form : CaseForm)
  /-- The text of one column followed by that of another. -/
  | concatenate (first second : String)
  /-- A timestamp moved by a number of seconds. -/
  | shift (column : String) (seconds : Float)
  /-- The text of a timestamp that is given in seconds since 1970. -/
  | unixTime (column : String)
  /-- An object with some fields set to the values of columns. -/
  | fill (fields : Entries Json) (columns : Entries String)

namespace Binding

/-- The columns that a binding reads. -/
def inputs : Binding → List String
  | .point latitude longitude => [latitude, longitude]
  | .pairedPoint column _ => [column]
  | .buffer column _ _ _ => [column]
  | .contentId identifier _ => [identifier]
  | .constant _ => []
  | .join columns _ => columns
  | .split column _ _ => [column]
  | .equals column _ => [column]
  | .replace column _ _ => [column]
  | .changeCase column _ => [column]
  | .concatenate first second => [first, second]
  | .shift column _ => [column]
  | .unixTime column => [column]
  | .fill _ columns => columns.map Prod.snd

end Binding

/-- A binding under the name of the column that it derives. -/
structure NamedBinding where
  name : String
  binding : Binding

end RowTriples
