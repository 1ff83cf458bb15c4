import RowTriples.Proofs.Decimal.Numerals
import RowTriples.Proofs.Decimal.Numeric
import RowTriples.Proofs.Decimal.Truncation
import RowTriples.Typing
/-!
# Literals of integers

A property whose range is that of integers takes integers, finite floats and texts. Each of them
denotes an integer: itself, the integer part of the exact value, or what the text spells. If this is
a 64-bit integer, then the literal is that of the integer, digit by digit. If it is none, then a
text is refused, but a float is not: its literal is that of the end of the range that is nearest to
it. Floats beyond the range are the only values whose number is changed.
-/

namespace RowTriples

open NTriples

namespace Datum

/-- The value denotes the integer where integers are expected. -/
inductive Denotes : Datum → Int → Prop where
  | integer {n : Int64} : Denotes (.integer n) n.toInt
  /-- A finite float denotes the integer part of its exact value. -/
  | decimal {x : Float} {q : ℚ} (exact : Decimal.exactValue? x = some q) :
      Denotes (.decimal x) (Decimal.towardsZero q)
  /-- White space around a numeral does not count. -/
  | text {s : String} {n : Int} (numeral : Decimal.IsNumeral (Text.trimmed s).toList n) :
      Denotes (.text s) n

theorem Denotes.unique {value : Datum} {n n' : Int} (h : value.Denotes n) (h' : value.Denotes n') :
    n = n' := by
  cases h with
  | integer =>
      cases h'
      rfl
  | decimal exact =>
      cases h' with
      | decimal exact' =>
          cases exact.symm.trans exact'
          rfl
  | text numeral =>
      cases h' with
      | text numeral' => exact numeral.unique numeral'

/-- The value is a float whose integer part is no 64-bit integer. -/
def IsWideFloat (value : Datum) : Prop :=
  ∃ x n, value = .decimal x ∧ value.Denotes n ∧ ∀ word : Int64, word.toInt ≠ n

theorem IsWideFloat.not_denotes {value : Datum} (wide : value.IsWideFloat) (word : Int64) :
    ¬value.Denotes word.toInt := by
  obtain ⟨_, n, _, denotes, beyond⟩ := wide
  exact fun denotes' => beyond word (denotes'.unique denotes)

end Datum

/-! ### The end of the range -/

namespace Decimal

theorem toInt_saturated (n : Int) :
    (saturated n).toInt = max (-2 ^ 63) (min n (2 ^ 63 - 1)) := by
  have power : Int.pow 2 63 = 2 ^ 63 := rfl
  rw [saturated, power, Int64.toInt_ofInt_of_le (by omega) (by omega)]

theorem saturated_toInt (word : Int64) : saturated word.toInt = word := by
  have lower : -2 ^ 63 ≤ word.toInt := word.le_toInt
  have upper : word.toInt < 2 ^ 63 := word.toInt_lt
  apply Int64.toInt_inj.mp
  rw [toInt_saturated]
  omega

end Decimal

/-! ### The token -/

/-- The token of an integer: its decimal form as the text of a literal. -/
def integerToken (n : Int) : String :=
  "\"" ++ toString n ++ "\"^^<http://www.w3.org/2001/XMLSchema#integer>"

section Tokens

theorem escaped_of_isNumeric {c : Char} (numeric : Decimal.isNumeric c = true) :
    escaped c = [c] := by
  have none : ∀ d ∈ ['\\', '"', '\n', '\r', '\t'], Decimal.isNumeric d = false := by
    simp [Decimal.isNumeric]
  have marks : ∀ d ∈ ['\\', '"', '\n', '\r', '\t'], c ≠ d := by
    rintro d member rfl
    rw [none c member] at numeric
    cases numeric
  simp only [List.forall_mem_cons] at marks
  simp [escaped, marks]

theorem plainLiteral_of_isNumeric {text : String} (numeric : Decimal.IsNumeric text.toList) :
    plainLiteral text = "\"" ++ text ++ "\"" := by
  have kept : text.toList.flatMap escaped = text.toList := by
    rw [List.flatMap_congr fun c member => escaped_of_isNumeric (numeric c member),
      List.flatMap_singleton']
  apply String.toList_inj.mp
  rw [plainLiteral, kept, String.toList_ofList]
  simp

theorem isNumeric_toString (n : Int) : Decimal.IsNumeric (toString n).toList := by
  rw [Json.Number.toList_toString_int]
  refine .append ?_ .toDigits
  split
  · exact .cons (by decide) .nil
  · exact .nil

theorem integer_eq_integerToken (n : Int64) : Typing.integer n = integerToken n.toInt := by
  have datatype : iriToken (Typing.xsd "integer") =
      "<http://www.w3.org/2001/XMLSchema#integer>" := by decide +kernel
  rw [Typing.integer, typedLiteral, plainLiteral_of_isNumeric (isNumeric_toString _), datatype,
    integerToken]
  simp only [String.append_assoc]
  rfl

end Tokens

/-! ### What becomes of a value -/

namespace Typing

/-- What may become of a value whose property has the range of integers. -/
inductive IntegerOutcome (value : Datum) : Except Misfit String → Prop where
  /-- The integer is written as it is. -/
  | kept {n : Int64} (denotes : value.Denotes n.toInt) : IntegerOutcome value (.ok (integer n))
  /-- The nearest end of the range is written. -/
  | limited {x : Float} {n : Int} (float : value = .decimal x) (denotes : value.Denotes n)
      (wide : ∀ word : Int64, word.toInt ≠ n) :
      IntegerOutcome value (.ok (integer (Decimal.saturated n)))
  | refused {misfit : Misfit} (none : ∀ n : Int64, ¬value.Denotes n.toInt)
      (narrow : ¬value.IsWideFloat) : IntegerOutcome value (.error misfit)

section Values

variable (vocabulary : Vocabulary) (property : String)

theorem integerOutcome_decimal (x : Float) :
    IntegerOutcome (.decimal x) (declared vocabulary property (.decimal x) .integer) := by
  simp only [declared]
  split
  next finite =>
    obtain ⟨q, exact⟩ := Decimal.exists_exactValue?_iff.mpr finite
    rw [Decimal.Binary.truncate_eq_towardsZero, ← Decimal.exactValue?_eq_value exact]
    by_cases word : ∃ word : Int64, word.toInt = Decimal.towardsZero q
    · obtain ⟨word, same⟩ := word
      rw [← same, Decimal.saturated_toInt]
      exact .kept (same ▸ .decimal exact)
    · exact .limited rfl (.decimal exact) (not_exists.mp word)
  next infinite =>
    have none (n : Int) : ¬(Datum.decimal x).Denotes n := by
      intro denotes
      cases denotes with
      | decimal exact => exact infinite (Decimal.exists_exactValue?_iff.mp ⟨_, exact⟩)
    refine .refused (fun n => none n.toInt) ?_
    rintro ⟨_, n, _, denotes, _⟩
    exact none n denotes

theorem integerOutcome_text (s : String) :
    IntegerOutcome (.text s) (declared vocabulary property (.text s) .integer) := by
  simp only [declared]
  split
  next n read => exact .kept (.text (Decimal.readInt64_eq_ok_iff.mp read))
  next cause read =>
    refine .refused (fun n denotes => ?_) (by rintro ⟨_, _, ⟨⟩, _⟩)
    cases denotes with
    | text numeral =>
        rw [Decimal.readInt64_eq_ok_iff.mpr numeral] at read
        cases read

/-- An integer is kept, limited or refused, by the kind of the value. -/
theorem integerOutcome_declared (value : Datum) :
    IntegerOutcome value (declared vocabulary property value .integer) := by
  cases value with
  | integer n => exact .kept .integer
  | decimal x => exact integerOutcome_decimal vocabulary property x
  | text s => exact integerOutcome_text vocabulary property s
  | null | boolean | timestamp | list | object =>
      exact .refused nofun (by rintro ⟨_, _, ⟨⟩, _⟩)

end Values

/-- The outcome keeps the integer that the value denotes: a literal is that of this integer, and a
value that denotes no 64-bit integer is refused. -/
structure KeepsInteger (property range : String) (value : Datum)
    (outcome : Except CoercionError String) : Prop where
  exact : ∀ token, outcome = .ok token →
    ∃ n : Int64, value.Denotes n.toInt ∧ token = integerToken n.toInt
  refused : (∀ n : Int64, ¬value.Denotes n.toInt) →
    ∃ misfit, outcome = .error ⟨property, value.plainText, range, misfit⟩

section Outcomes

variable {property range : String} {value : Datum} {outcome : Except CoercionError String}

theorem KeepsInteger.of_written {n : Int64} (denotes : value.Denotes n.toInt)
    (written : outcome = .ok (integerToken n.toInt)) :
    KeepsInteger property range value outcome where
  exact token same := by
    rw [written] at same
    cases same
    exact ⟨n, denotes, rfl⟩
  refused none := absurd denotes (none n)

theorem KeepsInteger.of_error {misfit : Misfit}
    (refusal : outcome = .error ⟨property, value.plainText, range, misfit⟩) :
    KeepsInteger property range value outcome where
  exact token same := by
    rw [refusal] at same
    cases same
  refused _ := ⟨misfit, refusal⟩

/-- A literal for a value that denotes no 64-bit integer is that of another integer. -/
theorem not_keepsInteger_of_ok {token : String} (none : ∀ n : Int64, ¬value.Denotes n.toInt)
    (written : outcome = .ok token) : ¬KeepsInteger property range value outcome := by
  intro keeps
  obtain ⟨n, denotes, _⟩ := keeps.exact token written
  exact none n denotes

end Outcomes

theorem ofName_of_integral {range : String}
    (integral : range ∈ ["Integer", "IntegerList", "IntegerSet"]) :
    Range.ofName range = .integer := by
  revert range
  decide

theorem literal_of_declared {schema : Schema} {vocabulary : Vocabulary} {property range : String}
    (declares : schema.declared? (vocabulary.localName property) = some range) (value : Datum) :
    literal schema vocabulary property value =
      (declared vocabulary (vocabulary.localName property) value (.ofName range)).mapError
        (⟨vocabulary.localName property, value.plainText, range, ·⟩) := by
  simp only [literal, declares]

end Typing

/-- Where the declared range is that of integers, the integer that a value denotes is kept, unless
the value is a float beyond the 64-bit range, which takes the nearest end of the range. -/
theorem integers_are_kept_iff (schema : Schema) (vocabulary : Vocabulary) (property range : String)
    (value : Datum) (declares : schema.declared? (vocabulary.localName property) = some range)
    (integral : range ∈ ["Integer", "IntegerList", "IntegerSet"]) :
    let outcome := Typing.literal schema vocabulary property value
    (Typing.KeepsInteger (vocabulary.localName property) range value outcome ↔
      ¬value.IsWideFloat) ∧
    (∀ n : Int64, value.Denotes n.toInt → outcome = .ok (integerToken n.toInt)) ∧
    (value.IsWideFloat → ∀ n, value.Denotes n →
      outcome = .ok (integerToken (max (-2 ^ 63) (min n (2 ^ 63 - 1))))) := by
  intro outcome
  have literal : outcome = (Typing.declared vocabulary (vocabulary.localName property) value
      .integer).mapError (⟨vocabulary.localName property, value.plainText, range, ·⟩) := by
    rw [← Typing.ofName_of_integral integral]
    exact Typing.literal_of_declared declares value
  have become := Typing.integerOutcome_declared vocabulary (vocabulary.localName property) value
  generalize Typing.declared vocabulary (vocabulary.localName property) value .integer = result
    at literal become
  cases become with
  | @kept n denotes =>
      have written : outcome = .ok (integerToken n.toInt) := by
        rw [literal, ← integer_eq_integerToken]
        rfl
      have narrow : ¬value.IsWideFloat := fun wide => wide.not_denotes n denotes
      refine ⟨iff_of_true (.of_written denotes written) narrow, ?_, (absurd · narrow)⟩
      intro n' denotes'
      rw [written, denotes.unique denotes']
  | @limited x n float denotes beyond =>
      have written : outcome = .ok (integerToken (max (-2 ^ 63) (min n (2 ^ 63 - 1)))) := by
        rw [literal, ← Decimal.toInt_saturated, ← integer_eq_integerToken]
        rfl
      have wide : value.IsWideFloat := ⟨x, n, float, denotes, beyond⟩
      refine ⟨iff_of_false (Typing.not_keepsInteger_of_ok wide.not_denotes written)
        (not_not_intro wide), fun n' denotes' => absurd denotes' (wide.not_denotes n'), ?_⟩
      intro _ n' denotes'
      rw [written, denotes.unique denotes']
  | @refused misfit none narrow =>
      have refusal : outcome =
          .error ⟨vocabulary.localName property, value.plainText, range, misfit⟩ := by
        rw [literal]
        rfl
      exact ⟨iff_of_true (.of_error refusal) narrow, fun n denotes => absurd denotes (none n),
        (absurd · narrow)⟩

/-! ### A schema of ages -/

def ageSchema : Schema := .ofList [("age", "Integer")]

theorem denotes_ten_quintillion : (Datum.decimal 1e19).Denotes (10 ^ 19) := by
  have exact : Decimal.exactValue? 1e19 = some (10 ^ 19) := by decide +kernel
  have whole : Decimal.towardsZero (10 ^ 19) = 10 ^ 19 := by decide +kernel
  exact whole ▸ .decimal exact

theorem isWideFloat_ten_quintillion : (Datum.decimal 1e19).IsWideFloat := by
  refine ⟨1e19, 10 ^ 19, rfl, denotes_ten_quintillion, fun word same => ?_⟩
  have inside := word.toInt_lt
  omega

/-- A text around which there is white space is kept, a float beyond the range takes its end. -/
theorem integers_are_kept_iff_age :
    let literal := Typing.literal ageSchema (.of defaultNamespace) "age"
    ageSchema.declared? ((Vocabulary.of defaultNamespace).localName "age") = some "Integer" ∧
    "Integer" ∈ ["Integer", "IntegerList", "IntegerSet"] ∧
    literal (.text " 42 ") = .ok (integerToken 42) ∧
    (Datum.decimal 1e19).IsWideFloat ∧
    literal (.decimal 1e19) = .ok (integerToken (2 ^ 63 - 1)) := by
  intro literal
  have declares :
      ageSchema.declared? ((Vocabulary.of defaultNamespace).localName "age") = some "Integer" := rfl
  have integral : "Integer" ∈ ["Integer", "IntegerList", "IntegerSet"] := by decide
  obtain ⟨_, kept, _⟩ := integers_are_kept_iff ageSchema (.of defaultNamespace) "age" "Integer"
    (.text " 42 ") declares integral
  obtain ⟨_, _, limited⟩ := integers_are_kept_iff ageSchema (.of defaultNamespace) "age" "Integer"
    (.decimal 1e19) declares integral
  have trimmed : (Text.trimmed " 42 ").toList = ['4', '2'] := by decide
  have numeral : Decimal.IsNumeral (Text.trimmed " 42 ").toList (42 : Int64).toInt :=
    trimmed ▸ .plain nofun (by simp)
  have written := limited isWideFloat_ten_quintillion _ denotes_ten_quintillion
  have bound : max (-2 ^ 63) (min (10 ^ 19) (2 ^ 63 - 1)) = (2 ^ 63 - 1 : Int) := by decide
  rw [bound] at written
  exact ⟨declares, integral, kept 42 (.text numeral), isWideFloat_ten_quintillion, written⟩

/-- The literal of a wide float is that of another integer, and the float is not refused. -/
theorem not_keepsInteger_age :
    ¬Typing.KeepsInteger "age" "Integer" (.decimal 1e19)
      (Typing.literal ageSchema (.of defaultNamespace) "age" (.decimal 1e19)) := by
  have written : Typing.literal ageSchema (.of defaultNamespace) "age" (.decimal 1e19) =
      .ok (integerToken (2 ^ 63 - 1)) := rfl
  exact Typing.not_keepsInteger_of_ok isWideFloat_ten_quintillion.not_denotes written

end RowTriples
