import Mathlib.Data.List.Infix
import RowTriples.Text.Pieces
/-!
# Cuts of a text

A text is cut at a delimiter from left to right: at its leftmost occurrence, and then again in what
stands behind it. There is one such cut, whether or not the delimiter overlaps with itself. Joined
with the delimiter the pieces give the text again, and none of them holds the delimiter.
-/

namespace RowTriples.Text

/-- A delimiter behind the piece is the leftmost occurrence of the delimiter. -/
def EndsLeftmost (delimiter piece : List Char) : Prop :=
  ∀ before behind, piece ++ delimiter = before ++ delimiter ++ behind → behind = []

/-- The pieces of a text that is cut at the occurrences of a delimiter from left to right. -/
inductive IsCut (delimiter : List Char) : List Char → List (List Char) → Prop where
  | last {piece : List Char} (free : ¬delimiter <:+: piece) : IsCut delimiter piece [piece]
  | cons {piece rest : List Char} {pieces : List (List Char)}
      (leftmost : EndsLeftmost delimiter piece) (cut : IsCut delimiter rest pieces) :
      IsCut delimiter (piece ++ delimiter ++ rest) (piece :: pieces)

section Cuts

variable {delimiter cs piece : List Char} {pieces pieces' : List (List Char)}

theorem IsCut.ne_nil (cut : IsCut delimiter cs pieces) : pieces ≠ [] := by
  cases cut <;> exact List.cons_ne_nil _ _

/-- Nothing is lost between the pieces. -/
theorem IsCut.intercalate_eq (cut : IsCut delimiter cs pieces) :
    delimiter.intercalate pieces = cs := by
  induction cut with
  | last => exact List.intercalate_singleton
  | cons leftmost cut ih =>
      obtain ⟨next, others, rfl⟩ := List.exists_cons_of_ne_nil cut.ne_nil
      rw [List.intercalate_cons_cons, ih]

/-- A piece that holds the delimiter would have been cut before its end. -/
theorem EndsLeftmost.not_infix (nonempty : delimiter ≠ [])
    (leftmost : EndsLeftmost delimiter piece) : ¬delimiter <:+: piece := by
  rintro ⟨before, behind, rfl⟩
  have none := leftmost before (behind ++ delimiter) (by rw [List.append_assoc _ behind])
  exact nonempty (List.append_eq_nil_iff.mp none).2

theorem IsCut.not_infix (nonempty : delimiter ≠ []) (cut : IsCut delimiter cs pieces) :
    ∀ piece ∈ pieces, ¬delimiter <:+: piece := by
  induction cut with
  | last free => exact List.forall_mem_singleton.mpr free
  | cons leftmost _ ih =>
      exact List.forall_mem_cons.mpr ⟨leftmost.not_infix nonempty, ih⟩

/-- There are as many pieces as the text has characters, and one more, at most. -/
theorem IsCut.length_le (nonempty : delimiter ≠ []) (cut : IsCut delimiter cs pieces) :
    pieces.length ≤ cs.length + 1 := by
  have positive := List.length_pos_iff.mpr nonempty
  induction cut with
  | last => simp
  | cons _ _ ih =>
      simp only [List.length_cons, List.length_append]
      omega

/-- Of two texts that are the same up to one delimiter each, the pieces in front are the same. -/
theorem EndsLeftmost.eq {piece' rest rest' : List Char} (leftmost : EndsLeftmost delimiter piece)
    (leftmost' : EndsLeftmost delimiter piece')
    (same : piece ++ delimiter ++ rest = piece' ++ delimiter ++ rest') : piece = piece' := by
  rcases List.append_eq_append_iff.mp same with ⟨more, front, _⟩ | ⟨more, front, _⟩
  · rw [leftmost' piece more front, List.append_nil] at front
    exact (List.append_cancel_right front).symm
  · rw [leftmost piece' more front, List.append_nil] at front
    exact List.append_cancel_right front

/-- There is one way to cut a text from left to right. -/
theorem IsCut.unique (cut : IsCut delimiter cs pieces) (cut' : IsCut delimiter cs pieces') :
    pieces = pieces' := by
  induction cut generalizing pieces' with
  | last free =>
      cases cut' with
      | last => rfl
      | cons => exact absurd (List.infix_append ..) free
  | @cons piece rest _ leftmost _ ih =>
      generalize whole : piece ++ delimiter ++ rest = cs at cut'
      cases cut' with
      | last free => exact absurd (whole ▸ List.infix_append ..) free
      | cons leftmost' cut' =>
          cases leftmost.eq leftmost' whole
          cases List.append_cancel_left whole
          rw [ih cut']

/-! ### The cut that is made -/

/-- A character in front of a text that is cut joins the first piece, unless a delimiter begins
there. -/
theorem IsCut.cons_char {c : Char} (none : ¬delimiter <+: c :: cs)
    (cut : IsCut delimiter cs pieces) :
    IsCut delimiter (c :: cs) (pieces.modifyHead (c :: ·)) := by
  cases cut with
  | last free =>
      refine .last fun occurs => ?_
      exact (List.infix_cons_iff.mp occurs).elim none free
  | @cons piece rest _ leftmost cut =>
      refine @IsCut.cons delimiter (c :: piece) rest _ (fun before behind same => ?_) cut
      cases before with
      | nil =>
          have front : delimiter <+: c :: (piece ++ delimiter) := ⟨behind, same.symm⟩
          exact absurd (front.trans (List.prefix_append (c :: (piece ++ delimiter)) rest)) none
      | cons first before => exact leftmost before behind (List.cons.inj same).2

/-- By induction on the search: what is cut stands behind the characters that still belong to the
occurrence found last. -/
theorem isCut_piecesFrom (nonempty : delimiter ≠ []) (skip : Nat) (cs : List Char) :
    IsCut delimiter (cs.drop skip) (piecesFrom delimiter skip cs) := by
  fun_induction piecesFrom delimiter skip cs with
  | case1 =>
      rw [List.drop_nil]
      exact .last fun occurs => nonempty (List.infix_nil.mp occurs)
  | case2 skip c cs ih => exact ih
  | case3 c cs found ih =>
      obtain ⟨rest, whole⟩ := List.isPrefixOf_iff_prefix.mp found
      have behind : cs.drop (delimiter.length - 1) = rest := by
        have positive := List.length_pos_iff.mpr nonempty
        have same : (c :: cs).drop (delimiter.length - 1 + 1) = rest := by
          rw [← whole, Nat.sub_add_cancel positive, List.drop_left]
        exact same
      rw [List.drop_zero, ← whole]
      rw [behind] at ih
      refine @IsCut.cons delimiter [] rest _ (fun before behind same => ?_) ih
      have lengths := congrArg List.length same
      simp only [List.length_append, List.length_nil] at lengths
      exact List.length_eq_zero_iff.mp (by omega)
  | case4 c cs missing ih =>
      exact ih.cons_char (missing ∘ List.isPrefixOf_iff_prefix.mpr)

theorem isCut_pieces (nonempty : delimiter ≠ []) (cs : List Char) :
    IsCut delimiter cs (Text.pieces delimiter cs) := by
  rw [Text.pieces, if_neg (nonempty ∘ List.isEmpty_iff.mp)]
  exact isCut_piecesFrom nonempty 0 cs

end Cuts

theorem joinWith_eq_intercalate (separator : List Char) (parts : List (List Char)) :
    joinWith separator parts = separator.intercalate parts := by
  fun_induction joinWith separator parts with
  | case1 => rfl
  | case2 part => exact List.intercalate_singleton.symm
  | case3 part parts more ih =>
      obtain ⟨next, others, rfl⟩ := List.exists_cons_of_ne_nil more
      rw [ih, List.intercalate_cons_cons]

/-- What is replaced is what the text is cut at. -/
theorem replace_eq_intercalate {old : List Char} (nonempty : old ≠ []) (new cs : List Char) :
    replace old new cs = new.intercalate (pieces old cs) := by
  rw [replace, if_neg (nonempty ∘ List.isEmpty_iff.mp), joinWith_eq_intercalate]

end RowTriples.Text
