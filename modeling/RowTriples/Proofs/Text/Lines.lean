import Mathlib.Data.List.Basic
/-!
# Lines

A line ends at a line break. What stands behind the last line break is a line too if there is
anything. The units of a text may be its characters or its bytes, and a separator that does not
occur in the parts around it tells them apart.
-/

namespace RowTriples.Text

variable {α : Type} [DecidableEq α]

/-- The lines of a text, without the breaks between them. -/
def linesOf (newline : α) : List α → List (List α)
  | [] => []
  | c :: cs =>
    if c = newline then [] :: linesOf newline cs
    else
      match linesOf newline cs with
      | [] => [[c]]
      | line :: lines => (c :: line) :: lines

omit [DecidableEq α] in
/-- The parts around the first separator can be read off. -/
theorem append_separator_inj {separator : α} {before before' after after' : List α}
    (first : separator ∉ before) (first' : separator ∉ before')
    (same : before ++ separator :: after = before' ++ separator :: after') :
    before = before' ∧ after = after' := by
  induction before generalizing before' with
  | nil =>
      cases before' with
      | nil => exact ⟨rfl, (List.cons.inj same).2⟩
      | cons d before' => exact absurd (List.mem_cons.mpr (.inl (List.cons.inj same).1)) first'
  | cons c before ih =>
      cases before' with
      | nil => exact absurd (List.mem_cons.mpr (.inl (List.cons.inj same).1.symm)) first
      | cons d before' =>
          obtain ⟨rfl, tail⟩ := List.cons.inj same
          rw [List.mem_cons, not_or] at first first'
          obtain ⟨rfl, rfl⟩ := ih first.2 first'.2 tail
          exact ⟨rfl, rfl⟩

variable {newline : α}

theorem linesOf_append_newline {line : List α} (unbroken : newline ∉ line) (rest : List α) :
    linesOf newline (line ++ newline :: rest) = line :: linesOf newline rest := by
  induction line with
  | nil => simp [linesOf]
  | cons c line ih =>
      rw [List.mem_cons, not_or] at unbroken
      rw [List.cons_append, linesOf, if_neg (Ne.symm unbroken.1), ih unbroken.2]

/-- Lines that end in a line break each are the lines of the whole text. -/
theorem linesOf_flatMap {lines : List (List α)} (unbroken : ∀ line ∈ lines, newline ∉ line) :
    linesOf newline (lines.flatMap fun line => line ++ [newline]) = lines := by
  induction lines with
  | nil => rfl
  | cons line lines ih =>
      rw [List.forall_mem_cons] at unbroken
      have cut : (line :: lines).flatMap (fun line => line ++ [newline]) =
          line ++ newline :: lines.flatMap fun line => line ++ [newline] := by
        simp
      rw [cut, linesOf_append_newline unbroken.1, ih unbroken.2]

/-- Every line that ends in a line break brings one of them. -/
theorem count_newline_flatMap {lines : List (List α)} (unbroken : ∀ line ∈ lines, newline ∉ line) :
    (lines.flatMap fun line => line ++ [newline]).count newline = lines.length := by
  have each : lines.map (List.count newline ∘ fun line => line ++ [newline]) =
      lines.map fun _ => 1 := by
    refine List.map_congr_left fun line member => ?_
    rw [Function.comp_apply, List.count_append, List.count_eq_zero.mpr (unbroken line member),
      List.count_singleton_self]
  rw [List.count_flatMap, each, List.map_const', List.sum_replicate_nat, Nat.mul_one]

end RowTriples.Text
