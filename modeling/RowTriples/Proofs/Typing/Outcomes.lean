import RowTriples.Typing
/-!
# What becomes of a value

Whatever range is declared and whatever shape a value has, it is refused or has one of a few
literals: that of its text or of its JSON text, or that of a number, a truth value, a timestamp or
an object that it is or that its text denotes. Of a declared range only the name of an unknown kind
gets into a literal.
-/

namespace RowTriples

open NTriples

/-- The name is a declared range that stands for no kind of value. -/
def Schema.DeclaresUnknown (schema : Schema) (name : String) : Prop :=
  (∃ property, schema.declared? property = some name) ∧ Range.ofName name = .other name

namespace Typing

/-- The token is a literal that may be written for the value. The names are those of ranges that
stand for no kind of value. -/
inductive Writes (vocabulary : Vocabulary) (named : String → Prop) (value : Datum) :
    String → Prop where
  | text : Writes vocabulary named value (plainLiteral value.plainText)
  | json : Writes vocabulary named value (plainLiteral value.toJson.compact)
  | named {name : String} (own : named name) :
      Writes vocabulary named value (typedLiteral value.plainText (vocabulary.expand name))
  | double (x : Float) :
      Writes vocabulary named value (typedLiteral (Decimal.Layout.plain.text x) (xsd "double"))
  | integer (n : Int64) : Writes vocabulary named value (integer n)
  | boolean (b : Bool) : Writes vocabulary named value (boolean b)
  | timestamp (t : Time.Timestamp) : Writes vocabulary named value (dateTime t.text)
  | zoned (t : Time.Timestamp) (offset : Int) :
      Writes vocabulary named value (dateTime (t.zonedText offset))
  | object (fields : Entries Json) : Writes vocabulary named value (geoJson vocabulary fields)

/-- The value is refused or has such a literal. -/
inductive Outcome {ε : Type} (vocabulary : Vocabulary) (named : String → Prop) (value : Datum) :
    Except ε String → Prop where
  | written {token : String} (h : Writes vocabulary named value token) :
      Outcome vocabulary named value (.ok token)
  | refused (cause : ε) : Outcome vocabulary named value (.error cause)

section Outcomes

variable {ε ε' : Type} {vocabulary : Vocabulary} {named named' : String → Prop} {value : Datum}

theorem Writes.mono {token : String} (h : Writes vocabulary named value token)
    (names : ∀ name, named name → named' name) : Writes vocabulary named' value token := by
  cases h with
  | text => exact .text
  | json => exact .json
  | named own => exact .named (names _ own)
  | double x => exact .double x
  | integer n => exact .integer n
  | boolean b => exact .boolean b
  | timestamp t => exact .timestamp t
  | zoned t offset => exact .zoned t offset
  | object fields => exact .object fields

/-- How an error is told makes no difference. -/
theorem Outcome.mapError {outcome : Except ε String} (h : Outcome vocabulary named value outcome)
    (f : ε → ε') (names : ∀ name, named name → named' name) :
    Outcome vocabulary named' value (outcome.mapError f) := by
  cases h with
  | written writes => exact .written (writes.mono names)
  | refused cause => exact .refused (f cause)

theorem outcome_double (x : Float) : Outcome vocabulary named value (double x) := by
  rw [double]
  split
  · exact .written (.double x)
  · exact .refused _

/-- Every range has a case for each of the shapes that it takes and refuses the others. -/
theorem outcome_declared (property : String) (range : Range) :
    Outcome vocabulary (range = .other ·) value (declared vocabulary property value range) := by
  cases range with
  | dateTime =>
      cases value with
      | timestamp t => exact .written (.timestamp t)
      | text s =>
          simp only [declared]
          split
          next wall _ => exact .written (.timestamp wall)
          next wall offset _ _ => exact .written (.zoned wall offset)
          next => exact .refused _
      | _ => exact .refused _
  | decimal =>
      cases value with
      | decimal x => exact outcome_double x
      | integer n => exact outcome_double (Float.ofInt n.toInt)
      | text s =>
          simp only [declared]
          split
          next x _ => exact outcome_double x
          next => exact .refused _
      | _ => exact .refused _
  | integer =>
      cases value with
      | integer n => exact .written (.integer n)
      | decimal x =>
          simp only [declared]
          split
          · exact .written (.integer _)
          · exact .refused _
      | text s =>
          simp only [declared]
          split
          next n _ => exact .written (.integer n)
          next => exact .refused _
      | _ => exact .refused _
  | text =>
      cases value with
      | null => exact .refused _
      | _ => exact .written .text
  | boolean =>
      cases value with
      | boolean b => exact .written (.boolean b)
      | integer n =>
          simp only [declared]
          split
          · exact .written (.boolean false)
          split
          · exact .written (.boolean true)
          · exact .refused _
      | text s =>
          simp only [declared]
          split
          next b _ => exact .written (.boolean b)
          next => exact .refused _
      | _ => exact .refused _
  | geoJson =>
      cases value with
      | object fields => exact .written (.object fields)
      | text s =>
          simp only [declared]
          split
          next fields _ => exact .written (.object fields)
          next => exact .refused _
      | _ => exact .refused _
  | other name =>
      simp only [declared]
      split
      · exact .written .json
      · exact .written (.named rfl)

/-- Without a range the shape alone decides, and no name gets into the literal. -/
theorem outcome_native :
    Outcome vocabulary (fun _ => False) value (native vocabulary value) := by
  cases value with
  | text s => exact .written .text
  | integer n => exact .written (.integer n)
  | decimal x => exact (outcome_double x).mapError _ fun _ => id
  | boolean b => exact .written (.boolean b)
  | timestamp t => exact .written (.timestamp t)
  | object fields => exact .written (.object fields)
  | null | list => exact .refused _

theorem ofName_other {range name : String} (same : Range.ofName range = .other name) :
    range = name := by
  unfold Range.ofName at same
  repeat' split at same
  all_goals cases same
  rfl

/-- The names that get into literals are those of declared ranges. -/
theorem outcome_literal (schema : Schema) (vocabulary : Vocabulary) (property : String)
    (value : Datum) :
    Outcome vocabulary schema.DeclaresUnknown value (literal schema vocabulary property value) := by
  simp only [literal]
  split
  next range declares =>
    refine (outcome_declared _ _).mapError _ fun name unknown => ?_
    obtain rfl := ofName_other unknown
    exact ⟨⟨_, declares⟩, unknown⟩
  next => exact outcome_native.mapError _ fun _ => False.elim

/-- The literal of a value is one of those that may be written for it. -/
theorem writes_literal {schema : Schema} {property token : String}
    (literal : literal schema vocabulary property value = .ok token) :
    Writes vocabulary schema.DeclaresUnknown value token := by
  have outcome := outcome_literal schema vocabulary property value
  rw [literal] at outcome
  cases outcome with
  | written writes => exact writes

end Outcomes

end Typing

end RowTriples
