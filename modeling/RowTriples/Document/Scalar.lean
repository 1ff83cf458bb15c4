import RowTriples.Decimal.Reader
import RowTriples.Document.Basic
/-!
# Scalars without quotation marks

A plain scalar of YAML is a null, a truth value or a number where it looks like one, and text
otherwise. Integers may be written in four bases. A run of digits with a needless zero in front is
text.
-/

namespace RowTriples.Document

/-- The value of a nonempty run of digits of a base, from 2 to 16. -/
def digitsOfBase? (base : Nat) (cs : List Char) : Option Nat :=
  let value? (c : Char) : Option Nat :=
    let v :=
      if c.isDigit then c.toNat - '0'.toNat
      else if 'a' ≤ c ∧ c ≤ 'z' then c.toNat - 'a'.toNat + 10
      else if 'A' ≤ c ∧ c ≤ 'Z' then c.toNat - 'A'.toNat + 10
      else base
    if v < base then some v else none
  if cs.isEmpty then none
  else cs.foldlM (fun n c => (value? c).map (base * n + ·)) 0

/-- The value of digits behind the mark of their base. -/
def markedDigits? : List Char → Option Nat
  | '0' :: 'x' :: cs => digitsOfBase? 16 cs
  | '0' :: 'o' :: cs => digitsOfBase? 8 cs
  | '0' :: 'b' :: cs => digitsOfBase? 2 cs
  | _ => none

/-- Whether the scalar is a run of several digits that begins with a zero, apart from its sign. -/
def hasNeedlessZero (cs : List Char) : Bool :=
  let ds :=
    match cs with
    | '+' :: cs | '-' :: cs => cs
    | cs => cs
  match ds with
  | '0' :: c :: rest => (c :: rest).all Char.isDigit
  | _ => false

def integer? (cs : List Char) : Option Int :=
  let decimal? (ds : List Char) : Option Nat :=
    if hasNeedlessZero cs then none else digitsOfBase? 10 ds
  let magnitude? (ds : List Char) : Option Nat := (markedDigits? ds).or (decimal? ds)
  match cs with
  | '-' :: ds => (magnitude? ds).map fun n => -(n : Int)
  | '+' :: ds => (magnitude? ds).map Int.ofNat
  | ds => (magnitude? ds).map Int.ofNat

def isNullWord (value : String) : Bool :=
  value ∈ ["", "~", "null", "Null", "NULL"]

def boolWord? (value : String) : Option Bool :=
  if value ∈ ["true", "True", "TRUE"] then some true
  else if value ∈ ["false", "False", "FALSE"] then some false
  else none

/-- Whether the scalar is a word for an infinite float or for the float that is no number. -/
def isSpecialFloat (value : String) : Bool :=
  value ∈ [".inf", ".Inf", ".INF", "+.inf", "+.Inf", "+.INF", "-.inf", "-.Inf", "-.INF", ".nan",
    ".NaN", ".NAN"]

/-- The finite float that a scalar denotes. -/
def float? (value : String) : Option Json.Number :=
  let cs := value.toList
  let unsigned :=
    match cs with
    | '+' :: c :: rest => if c = '+' || c = '-' then [] else c :: rest
    | cs => cs
  match Decimal.readFloat (String.ofList unsigned) with
  | .ok x => Json.Number.ofFloat? x
  | .error _ => none

/-- What a plain scalar denotes where any value may stand. Integers between the ranges of 64 and of
128 bits have no value; those beyond are floats. Floats that are not finite count as null. -/
def resolve (value : String) : Document :=
  let floatOrText : Document :=
    if hasNeedlessZero value.toList then .text value
    else ((float? value).map .number).getD (.text value)
  if isNullWord value then .null
  else
    match boolWord? value, integer? value.toList with
    | some b, _ => .bool b
    | none, some n =>
      match Json.Number.ofInt? n with
      | some whole => .number whole
      | none =>
        if -Int.pow 2 127 ≤ n ∧ n < Int.pow 2 128 then .unusable
        else floatOrText
    | none, none =>
      if isSpecialFloat value then .null else floatOrText

/-- The JSON value of a scalar under a tag, if it is one of the kind that the tag asks for. The
empty scalar is no null then, and a whole number is a float where one is asked for. -/
def taggedScalar? (tag : Tag) (value : String) : Option Json :=
  match tag with
  | .bool => (boolWord? value).map .bool
  | .int => ((integer? value.toList).bind Json.Number.ofInt?).map .number
  | .float => if isSpecialFloat value then some .null else (float? value).map .number
  | .null => if isNullWord value && !value.isEmpty then some .null else none
  | .own _ => none
  | .other => some (.string value)

end RowTriples.Document
