import RowTriples.Identifier.Resolution
/-!
# The text of a position

The text whose digest identifies a symbol by its position begins with the number of an element, if
there is one, which the symbol follows without a mark between them. Within a row the text separates
symbols for the same element and elements for the same symbol. Where symbols do not begin with a
digit, it separates both together, since the digits can be read back.
-/

namespace RowTriples

def StartsWithDigit (name : String) : Prop :=
  ∃ c ∈ name.toList.head?, c.isDigit = true

section Numbers

variable {number number' text text' : List Char}

theorem takeWhile_number (digits : ∀ c ∈ number, c.isDigit = true)
    (border : ∀ c ∈ text.head?, c.isDigit = false) :
    (number ++ text).takeWhile Char.isDigit = number := by
  rw [List.takeWhile_append_of_pos digits]
  cases text with
  | nil => simp
  | cons c rest => simp [border c rfl]

/-- A number in front of a text that does not go on with a digit can be read back. -/
theorem number_append_inj (digits : ∀ c ∈ number, c.isDigit = true)
    (digits' : ∀ c ∈ number', c.isDigit = true) (border : ∀ c ∈ text.head?, c.isDigit = false)
    (border' : ∀ c ∈ text'.head?, c.isDigit = false) :
    number ++ text = number' ++ text' ↔ number = number' ∧ text = text' := by
  constructor
  · intro same
    have sameNumber : number = number' := by
      rw [← takeWhile_number digits border, same, takeWhile_number digits' border']
    rw [sameNumber] at same
    exact ⟨sameNumber, List.append_cancel_left same⟩
  · rintro ⟨rfl, rfl⟩
    rfl

end Numbers

namespace Position

def digits (element : Option Nat) : List Char :=
  (element.map (Nat.toDigits 10)).getD []

theorem isDigit_of_mem_digits {element : Option Nat} {c : Char} (member : c ∈ digits element) :
    c.isDigit = true := by
  cases element with
  | none => cases member
  | some i => exact Nat.isDigit_of_mem_toDigits (by decide) (by decide) member

theorem digits_inj {i j : Option Nat} : digits i = digits j ↔ i = j := by
  constructor
  · intro same
    cases i with
    | none =>
        cases j with
        | none => rfl
        | some j => exact absurd same.symm Nat.toDigits_ne_nil
    | some i =>
        cases j with
        | none => exact absurd same Nat.toDigits_ne_nil
        | some j =>
            have same : Nat.toDigits 10 i = Nat.toDigits 10 j := same
            rw [← Nat.ofDigitChars_ten_toDigits (n := i), same, Nat.ofDigitChars_ten_toDigits]
  · rintro rfl
    rfl

section Content

variable {file symbol symbol' : String} {row : Nat} {i j : Option Nat}

theorem toList_content :
    (content ⟨file, row, i⟩ symbol).toList =
      digits i ++ symbol.toList ++ (file ++ toString row).toList := by
  cases i with
  | none => simp [content, digits]
  | some i => simp [content, digits, Nat.toString_eq_repr, Nat.toList_repr]

/-- Within a row, texts are told apart by what stands before the name of the output unit. -/
theorem content_eq_iff :
    content ⟨file, row, i⟩ symbol = content ⟨file, row, j⟩ symbol' ↔
      digits i ++ symbol.toList = digits j ++ symbol'.toList := by
  rw [← String.toList_inj, toList_content, toList_content, List.append_cancel_right_eq]

theorem content_eq_iff_of_symbol :
    content ⟨file, row, i⟩ symbol = content ⟨file, row, j⟩ symbol ↔ i = j := by
  rw [content_eq_iff, List.append_cancel_right_eq, digits_inj]

theorem content_eq_iff_of_element :
    content ⟨file, row, i⟩ symbol = content ⟨file, row, i⟩ symbol' ↔ symbol = symbol' := by
  rw [content_eq_iff, List.append_cancel_left_eq, String.toList_inj]

theorem content_eq_iff_of_not_startsWithDigit (h : ¬StartsWithDigit symbol)
    (h' : ¬StartsWithDigit symbol') :
    content ⟨file, row, i⟩ symbol = content ⟨file, row, j⟩ symbol' ↔ i = j ∧ symbol = symbol' := by
  have border {name : String} (h : ¬StartsWithDigit name) :
      ∀ c ∈ name.toList.head?, c.isDigit = false :=
    fun c head => Bool.eq_false_iff.mpr fun digit => h ⟨c, head, digit⟩
  rw [content_eq_iff, number_append_inj (fun _ => isDigit_of_mem_digits)
    (fun _ => isDigit_of_mem_digits) (border h) (border h'), digits_inj, String.toList_inj]

end Content

end Position

end RowTriples
