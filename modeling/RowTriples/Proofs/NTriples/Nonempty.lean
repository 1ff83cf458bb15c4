import RowTriples.Proofs.Json.Delimited
import RowTriples.Proofs.NTriples.Grammar
import RowTriples.Proofs.Typing.Outcomes
/-!
# Literals of values that are not empty

A value that is not empty is written as text that is not empty, whatever its shape: numbers have a
digit or a word, timestamps have hyphens, lists and objects have brackets. A literal is made of such
a text, of a number that was read from it, or of a word, so its text is not empty either.
-/

namespace RowTriples

open NTriples

/-- The token is a literal of the text, with or without a datatype. -/
inductive IsLiteralOf (text : String) : String → Prop where
  | plain : IsLiteralOf text (plainLiteral text)
  | typed (datatype : String) : IsLiteralOf text (typedLiteral text datatype)

namespace IsLiteralOf

variable {text token : String}

/-- A literal begins with its text in quotation marks. -/
theorem exists_toList (h : IsLiteralOf text token) :
    ∃ rest, token.toList = '"' :: (text.toList.flatMap escaped ++ '"' :: rest) := by
  cases h with
  | plain => exact ⟨[], toList_plainLiteral text⟩
  | typed datatype => exact ⟨_, toList_typedLiteral text datatype⟩

/-- Only the empty text has a literal without characters between the quotation marks. -/
theorem eq_empty (h : IsLiteralOf text token) (empty : IsLiteralOf "" token) : text = "" := by
  obtain ⟨rest, here⟩ := h.exists_toList
  obtain ⟨rest', there⟩ := empty.exists_toList
  have same := (List.cons.inj (here.symm.trans there)).2
  obtain ⟨body, _⟩ := (body_flatMap_escaped text.toList).unique (body_flatMap_escaped []) same
  have silent : ∀ c ∈ text.toList, escaped c = [] := List.flatMap_eq_nil_iff.mp body
  have written (c : Char) : escaped c ≠ [] := by
    rcases escaped_cases c with ⟨plain, _⟩ | ⟨letter, _, plain⟩ <;> rw [plain] <;> exact nofun
  cases characters : text.toList with
  | nil => exact String.toList_inj.mp characters
  | cons c cs => exact absurd (silent c (characters ▸ List.mem_cons_self)) (written c)

/-- An IRI is no literal. -/
theorem ne_iriToken (h : IsLiteralOf text token) (iri : String) : token ≠ iriToken iri := by
  rintro rfl
  obtain ⟨rest, quoted⟩ := h.exists_toList
  rw [toList_iriToken] at quoted
  exact absurd (List.cons.inj quoted).1 (by decide)

end IsLiteralOf

/-! ### Texts -/

theorem Json.compact_ne_empty (value : Json) : value.compact ≠ "" := by
  obtain ⟨c, cs, chars, _⟩ := exists_chars_eq_cons value
  rw [compact, chars]
  exact mt String.ofList_eq_empty_iff.mp (List.cons_ne_nil c cs)

theorem Time.Timestamp.text_ne_empty (t : Time.Timestamp) : t.text ≠ "" := by
  simp [text, chars]

theorem Time.Timestamp.zonedText_ne_empty (t : Time.Timestamp) (offset : Int) :
    t.zonedText offset ≠ "" := by
  simp [zonedText, chars]

/-- Floats that are not finite have a word. -/
theorem Decimal.ne_empty_of_special? {x : Float} {word : String}
    (special : special? x = some word) :
    word ≠ "" := by
  unfold special? at special
  repeat' split at special
  all_goals cases special
  all_goals decide

theorem Decimal.text_ne_empty (x : Float) : Layout.plain.text x ≠ "" := by
  unfold Layout.text
  cases special : special? x with
  | some word => exact ne_empty_of_special? special
  | none =>
      exact mt String.toList_eq_nil_iff.mpr finite_ne_nil

theorem toString_int_ne_empty (n : Int) : toString n ≠ "" := by
  intro none
  have characters := Json.Number.toList_toString_int n
  rw [none] at characters
  exact absurd (List.append_eq_nil_iff.mp characters.symm).2 Nat.toDigits_ne_nil

theorem boolText_ne_empty (b : Bool) : Datum.boolText b ≠ "" := by
  cases b <;> decide

/-- A value that is not empty has a text. -/
theorem Datum.plainText_ne_empty {value : Datum} (solid : value.isEmpty = false) :
    value.plainText ≠ "" := by
  cases value with
  | null => cases solid
  | text s =>
      intro none
      obtain rfl : s = "" := none
      cases solid
  | integer n => exact toString_int_ne_empty n.toInt
  | decimal x => exact Decimal.text_ne_empty x
  | boolean b => exact boolText_ne_empty b
  | timestamp t => exact t.text_ne_empty
  | list items => exact Json.compact_ne_empty _
  | object fields => exact Json.compact_ne_empty _

/-! ### Literals -/

namespace Typing

/-- The token is a literal of a text that is not empty. -/
def Tells (token : String) : Prop :=
  ∃ text, text ≠ "" ∧ IsLiteralOf text token

theorem Tells.not_isLiteralOf {token : String} (h : Tells token) : ¬IsLiteralOf "" token := by
  obtain ⟨text, some, literal⟩ := h
  exact fun empty => some (literal.eq_empty empty)

theorem tells_plain {text : String} (some : text ≠ "") : Tells (plainLiteral text) :=
  ⟨text, some, .plain⟩

theorem tells_typed {text datatype : String} (some : text ≠ "") :
    Tells (typedLiteral text datatype) :=
  ⟨text, some, .typed datatype⟩

/-- The literal of a value that is not empty has a text that is not empty. -/
theorem tells_literal {schema : Schema} {vocabulary : Vocabulary} {property object : String}
    {value : Datum} (solid : value.isEmpty = false)
    (literal : literal schema vocabulary property value = .ok object) : Tells object := by
  cases writes_literal literal with
  | text => exact tells_plain (Datum.plainText_ne_empty solid)
  | json => exact tells_plain (Json.compact_ne_empty _)
  | named => exact tells_typed (Datum.plainText_ne_empty solid)
  | double x => exact tells_typed (Decimal.text_ne_empty x)
  | integer n => exact tells_typed (toString_int_ne_empty n.toInt)
  | boolean b => exact tells_typed (boolText_ne_empty b)
  | timestamp t => exact tells_typed t.text_ne_empty
  | zoned t offset => exact tells_typed (t.zonedText_ne_empty offset)
  | object fields => exact tells_typed (Json.compact_ne_empty _)

end Typing

end RowTriples
