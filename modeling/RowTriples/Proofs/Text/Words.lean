import Mathlib.Data.List.DropRight
import RowTriples.Text.Blank
import RowTriples.Text.Pieces
/-!
# Words of a text

The runs between separating characters, and the words, which are the runs that are not empty. What
words a text has does not depend on separating characters around it, nor on how many of them stand
between two words. What is dropped around a text is the same whatever stands there of its kind.
-/

namespace RowTriples.Text

variable {isSeparator isSeparator' p : Char → Bool} {cs front back before after : List Char}

/-! ### Runs -/

theorem runs_ne_nil (isSeparator : Char → Bool) (cs : List Char) : runs isSeparator cs ≠ [] := by
  induction cs with
  | nil => simp [runs]
  | cons c cs ih =>
      rw [runs]
      split
      · simp
      · simpa using ih

theorem runs_append_separator {c : Char} (cuts : isSeparator c = true) (before after : List Char) :
    runs isSeparator (before ++ c :: after) =
      runs isSeparator before ++ runs isSeparator after := by
  induction before with
  | nil => simp [runs, cuts]
  | cons d before ih =>
      rw [List.cons_append, runs, runs, ih]
      split
      · rfl
      · obtain ⟨run, others, shape⟩ :=
          List.exists_cons_of_ne_nil (runs_ne_nil isSeparator before)
        rw [shape]
        rfl

theorem runs_of_forall (whole : ∀ c ∈ cs, isSeparator c = false) : runs isSeparator cs = [cs] := by
  induction cs with
  | nil => rfl
  | cons c cs ih =>
      rw [List.forall_mem_cons] at whole
      rw [runs, whole.1, ih whole.2]
      rfl

theorem not_isSeparator_of_mem_runs {run : List Char} (member : run ∈ runs isSeparator cs) :
    ∀ c ∈ run, isSeparator c = false := by
  induction cs generalizing run with
  | nil =>
      obtain rfl := List.mem_singleton.mp member
      exact nofun
  | cons c cs ih =>
      rw [runs] at member
      split at member
      · rcases List.mem_cons.mp member with rfl | member
        · exact nofun
        · exact ih member
      next outside =>
        obtain ⟨first, others, shape⟩ := List.exists_cons_of_ne_nil (runs_ne_nil isSeparator cs)
        rw [shape] at member
        rcases List.mem_cons.mp member with rfl | member
        · rw [List.forall_mem_cons]
          exact ⟨by simpa using outside, ih (shape ▸ List.mem_cons_self)⟩
        · exact ih (shape ▸ List.mem_cons_of_mem _ member)

theorem runs_congr (alike : ∀ c ∈ cs, isSeparator c = isSeparator' c) :
    runs isSeparator cs = runs isSeparator' cs := by
  induction cs with
  | nil => rfl
  | cons c cs ih =>
      rw [List.forall_mem_cons] at alike
      rw [runs, runs, alike.1, ih alike.2]

/-! ### Words -/

theorem words_congr (alike : ∀ c ∈ cs, isSeparator c = isSeparator' c) :
    words isSeparator cs = words isSeparator' cs := by
  rw [words, words, runs_congr alike]

theorem words_of_forall (whole : ∀ c ∈ cs, isSeparator c = false) :
    words isSeparator cs = [cs].filter (!·.isEmpty) := by
  rw [words, runs_of_forall whole]

theorem words_append_separator {c : Char} (cuts : isSeparator c = true) (before after : List Char) :
    words isSeparator (before ++ c :: after) =
      words isSeparator before ++ words isSeparator after := by
  rw [words, runs_append_separator cuts, List.filter_append]
  rfl

/-- Separators in front of a text make no words. -/
theorem words_append_left (cuts : ∀ c ∈ front, isSeparator c = true) :
    words isSeparator (front ++ cs) = words isSeparator cs := by
  induction front with
  | nil => rfl
  | cons c front ih =>
      rw [List.forall_mem_cons] at cuts
      rw [List.cons_append, ← List.nil_append (c :: (front ++ cs)), words_append_separator cuts.1,
        ih cuts.2]
      rfl

/-- Separators behind a text make no words. -/
theorem words_append_right (cuts : ∀ c ∈ back, isSeparator c = true) :
    words isSeparator (cs ++ back) = words isSeparator cs := by
  cases back with
  | nil => rw [List.append_nil]
  | cons c back =>
      rw [List.forall_mem_cons] at cuts
      have none : words isSeparator back = [] := by
        rw [← List.append_nil back, words_append_left cuts.2]
        rfl
      rw [words_append_separator cuts.1, none, List.append_nil]

/-- Separators between two texts end the words of the first one. -/
theorem words_append_between {between : List Char} (nonempty : between ≠ [])
    (cuts : ∀ c ∈ between, isSeparator c = true) (before after : List Char) :
    words isSeparator (before ++ between ++ after) =
      words isSeparator before ++ words isSeparator after := by
  obtain ⟨c, between, rfl⟩ := List.exists_cons_of_ne_nil nonempty
  rw [List.forall_mem_cons] at cuts
  rw [List.append_assoc, List.cons_append, words_append_separator cuts.1, words_append_left cuts.2]

/-! ### Dropping around a text -/

theorem dropEndWhile_append (dropped : ∀ c ∈ back, p c = true) :
    dropEndWhile p (cs ++ back) = dropEndWhile p cs := by
  have dropped : ∀ c ∈ back.reverse, p c = true := fun c member => dropped c (by simpa using member)
  rw [dropEndWhile, List.reverse_append, List.dropWhile_append_of_pos dropped, dropEndWhile]

/-- What is dropped anyway may stand around a text. -/
theorem dropAroundWhile_append (dropped : ∀ c ∈ front, p c = true)
    (dropped' : ∀ c ∈ back, p c = true) :
    dropAroundWhile p (front ++ cs ++ back) = dropAroundWhile p cs := by
  have none : back.dropWhile p = [] := List.dropWhile_eq_nil_iff.mpr dropped'
  rw [dropAroundWhile, List.append_assoc, List.dropWhile_append_of_pos dropped,
    List.dropWhile_append, none, dropAroundWhile]
  split
  next empty => rw [List.isEmpty_iff.mp empty]
  next => exact dropEndWhile_append dropped'

theorem exists_append_dropAroundWhile (p : Char → Bool) (cs : List Char) :
    ∃ front back, cs = front ++ dropAroundWhile p cs ++ back ∧ (∀ c ∈ front, p c = true) ∧
      ∀ c ∈ back, p c = true := by
  refine ⟨cs.takeWhile p, (cs.dropWhile p).rtakeWhile p, ?_, fun _ => List.mem_takeWhile_imp,
    fun _ => List.mem_rtakeWhile_imp⟩
  have behind : cs.dropWhile p = dropAroundWhile p cs ++ (cs.dropWhile p).rtakeWhile p :=
    (List.rdropWhile_append_rtakeWhile ..).symm
  rw [List.append_assoc, ← behind, List.takeWhile_append_dropWhile]

theorem dropAroundWhile_sublist : (dropAroundWhile p cs).Sublist cs := by
  obtain ⟨front, back, whole, _⟩ := exists_append_dropAroundWhile p cs
  have inside : dropAroundWhile p cs <:+: cs := ⟨front, back, whole.symm⟩
  exact inside.sublist

theorem dropAroundWhile_of_forall (kept : ∀ c ∈ cs, p c = false) : dropAroundWhile p cs = cs := by
  obtain ⟨front, back, whole, dropped, dropped'⟩ := exists_append_dropAroundWhile p cs
  have none {part : List Char} (inside : part ⊆ cs) (dropped : ∀ c ∈ part, p c = true) :
      part = [] := by
    refine List.eq_nil_iff_forall_not_mem.mpr fun c member => ?_
    exact Bool.false_ne_true ((kept c (inside member)).symm.trans (dropped c member))
  have front_nil : front = [] := none (fun c member => by rw [whole]; simp [member]) dropped
  have back_nil : back = [] := none (fun c member => by rw [whole]; simp [member]) dropped'
  rw [front_nil, back_nil, List.nil_append, List.append_nil] at whole
  exact whole.symm

/-- Dropping separators around a text leaves its words. -/
theorem words_dropAroundWhile (cuts : ∀ c, p c = true → isSeparator c = true) (cs : List Char) :
    words isSeparator (dropAroundWhile p cs) = words isSeparator cs := by
  obtain ⟨front, back, whole, dropped, dropped'⟩ := exists_append_dropAroundWhile p cs
  conv => rhs; rw [whole]
  rw [words_append_right fun c member => cuts c (dropped' c member),
    words_append_left fun c member => cuts c (dropped c member)]

end RowTriples.Text
