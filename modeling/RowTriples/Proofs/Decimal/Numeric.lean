import Mathlib.Data.List.Basic
import RowTriples.Json.Printer
/-!
# The characters of numbers

The text of a number consists of digits, signs, a point and the letter of the exponent, whatever its
layout. So it holds none of the marks that stand around numbers in other texts, and it is never
empty.
-/

namespace RowTriples

namespace Decimal

/-- A character that the text of a number may consist of. -/
def isNumeric (c : Char) : Bool :=
  c.isDigit || c ∈ ['+', '-', '.', 'e']

def IsNumeric (cs : List Char) : Prop :=
  ∀ c ∈ cs, isNumeric c = true

namespace IsNumeric

variable {layout : Layout} {ds ds' : List Char} {n : Nat} {e : Int}

theorem nil : IsNumeric [] := nofun

theorem append (h : IsNumeric ds) (h' : IsNumeric ds') : IsNumeric (ds ++ ds') :=
  List.forall_mem_append.mpr ⟨h, h'⟩

theorem cons {c : Char} (first : isNumeric c = true) (h : IsNumeric ds) : IsNumeric (c :: ds) :=
  List.forall_mem_cons.mpr ⟨first, h⟩

theorem of_subset (h : IsNumeric ds) (sub : ds' ⊆ ds) : IsNumeric ds' :=
  fun c member => h c (sub member)

theorem zeros : IsNumeric (List.replicate n '0') := by
  intro c member
  rw [List.eq_of_mem_replicate member]
  decide

theorem toDigits : IsNumeric (Nat.toDigits 10 n) := by
  intro c member
  simp [isNumeric, Nat.isDigit_of_mem_toDigits (by decide) (by decide) member]

theorem significant : IsNumeric (significant n) := by
  have digits : IsNumeric (Nat.toDigits 10 n) := toDigits
  refine digits.of_subset fun c member => ?_
  rw [Decimal.significant, List.mem_reverse] at member
  exact List.mem_reverse.mp ((List.dropWhile_sublist _).subset member)

theorem pointed (digits : IsNumeric ds) : IsNumeric (pointed n ds) := by
  refine ((digits.of_subset (List.take_subset n ds)).append zeros).append (cons (by decide) ?_)
  split
  · exact cons (by decide) nil
  · exact digits.of_subset (List.drop_subset n ds)

theorem positional (digits : IsNumeric ds) : IsNumeric (positional ds e) := by
  unfold Decimal.positional
  split
  · exact digits.pointed
  · have point : IsNumeric ['0', '.'] := cons (by decide) (cons (by decide) nil)
    exact (point.append zeros).append digits

theorem scientific (digits : IsNumeric ds) : IsNumeric (scientific layout ds e) := by
  have fraction : IsNumeric (if ds.length ≤ 1 then [] else '.' :: ds.drop 1) := by
    split
    · exact nil
    · exact cons (by decide) (digits.of_subset (List.drop_subset 1 ds))
  have sign : IsNumeric (if e < 0 then ['-'] else if layout.plus then ['+'] else []) := by
    split
    · exact cons (by decide) nil
    · split
      · exact cons (by decide) nil
      · exact nil
  have first : IsNumeric (ds.take 1) := digits.of_subset (List.take_subset 1 ds)
  exact ((first.append fraction).append (cons (by decide) sign)).append toDigits

theorem magnitude {d : Digits} : IsNumeric (layout.magnitude d) := by
  unfold Layout.magnitude
  dsimp only
  split
  · exact significant.positional
  · exact significant.scientific

theorem finite {x : Float} : IsNumeric (layout.finite x).toList := by
  have text : IsNumeric (if (Binary.ofFloat x).mantissa = 0 then ['0', '.', '0']
      else layout.magnitude (shortest layout.tie (Binary.ofFloat x))) := by
    split
    · exact cons (by decide) (cons (by decide) (cons (by decide) nil))
    · exact magnitude
  unfold Layout.finite
  dsimp only
  rw [String.toList_ofList]
  split
  · exact cons (by decide) text
  · exact text

end IsNumeric

/-! ### Texts are not empty -/

section NotEmpty

variable {layout : Layout}

theorem magnitude_ne_nil {d : Digits} : layout.magnitude d ≠ [] := by
  unfold Layout.magnitude
  dsimp only
  split
  · unfold positional
    split <;> simp [pointed]
  · simp [scientific]

theorem finite_ne_nil {x : Float} : (layout.finite x).toList ≠ [] := by
  unfold Layout.finite
  dsimp only
  rw [String.toList_ofList]
  split
  · exact List.cons_ne_nil _ _
  · split
    · exact List.cons_ne_nil _ _
    · exact magnitude_ne_nil

end NotEmpty

end Decimal

namespace Json.Number

variable (n : Number)

theorem toList_toString_int (k : Int) :
    (toString k).toList = (if k < 0 then ['-'] else []) ++ Nat.toDigits 10 k.natAbs := by
  cases k with
  | ofNat m => simp [Int.toString_eq_repr, Int.repr, Nat.toList_repr]
  | negSucc m => simp [Int.toString_eq_repr, Int.repr, Nat.toList_repr, Int.negSucc_lt_zero]

theorem isNumeric_chars : Decimal.IsNumeric n.chars := by
  cases n with
  | decimal x _ => exact .finite
  | integer k _ _ =>
      rw [chars, toList_toString_int]
      refine .append ?_ .toDigits
      split
      · exact .cons (by decide) .nil
      · exact .nil

theorem chars_ne_nil : n.chars ≠ [] := by
  cases n with
  | decimal x _ => exact Decimal.finite_ne_nil
  | integer k _ _ =>
      rw [chars, toList_toString_int]
      exact List.append_ne_nil_of_right_ne_nil _ Nat.toDigits_ne_nil

end Json.Number

end RowTriples
