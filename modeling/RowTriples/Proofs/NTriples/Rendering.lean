import RowTriples.Proofs.NTriples.Grammar
/-!
# Reading written statements back

Statements are written all together or not at all. If they are not written, the error is about the
first statement that has a token in the wrong place, and about the first such token of it.

What is written can be taken apart again. No token breaks a line, so the lines of the text are those
of the statements. Where subjects and predicates are IRIs they have no blanks, so they are the first
two words of the line; whatever the object looks like, it is the rest of the line without the point
at the end.
-/

namespace RowTriples

def Statement.token (s : Statement) : NTriples.Place → String
  | .subject => s.subject
  | .predicate => s.predicate
  | .object => s.object

namespace NTriples

def Place.before : Place → List Place
  | .subject => []
  | .predicate => [.subject]
  | .object => [.subject, .predicate]

/-- The first token of a statement that does not fit is at the place, and this is wrong with it. -/
structure FailsFirstAt (s : Statement) (place : Place) (fault : Fault) : Prop where
  fails : fault? place (s.token place) = some fault
  before : ∀ earlier ∈ place.before, fault? earlier (s.token earlier) = none

/-- The statement relates an IRI to its object by an IRI. -/
structure IsAboutIris (s : Statement) : Prop where
  subject : isIri s.subject = true
  predicate : isIri s.predicate = true

instance (s : Statement) : Decidable (IsAboutIris s) :=
  decidable_of_iff (isIri s.subject = true ∧ isIri s.predicate = true)
    ⟨fun h => ⟨h.1, h.2⟩, fun h => ⟨h.subject, h.predicate⟩⟩

theorem fits_iff {s : Statement} : Fits s ↔ ∀ place, fault? place (s.token place) = none := by
  constructor
  · rintro ⟨subject, predicate, object⟩ place
    cases place with
    | subject => exact subject
    | predicate => exact predicate
    | object => exact object
  · intro none
    exact ⟨none .subject, none .predicate, none .object⟩

/-! ### Errors -/

section Errors

variable {index : Nat} {s : Statement} {statements : List Statement} {e : RenderError}

theorem check_eq_error_iff {place : Place} {token : String} :
    check index place token = .error e ↔
      ∃ fault, fault? place token = some fault ∧ e = ⟨index, place, token, fault⟩ := by
  unfold check
  split
  next found => simp [found]
  next fault found => simp [found, eq_comm]

/-- The error about a statement is about its first token that does not fit. -/
theorem checkStatement_eq_error_iff :
    checkStatement index s = .error e ↔
      ∃ place fault, FailsFirstAt s place fault ∧ e = ⟨index, place, s.token place, fault⟩ := by
  simp only [checkStatement, bind_eq_error_iff, check_eq_ok_iff, check_eq_error_iff]
  constructor
  · rintro (⟨fault, fails, rfl⟩ | ⟨_, subject, ⟨fault, fails, rfl⟩ |
      ⟨_, predicate, fault, fails, rfl⟩⟩)
    · exact ⟨.subject, fault, ⟨fails, List.forall_mem_nil _⟩, rfl⟩
    · exact ⟨.predicate, fault, ⟨fails, List.forall_mem_singleton.mpr subject⟩, rfl⟩
    · exact ⟨.object, fault, ⟨fails, List.forall_mem_cons.mpr ⟨subject,
        List.forall_mem_singleton.mpr predicate⟩⟩, rfl⟩
  · rintro ⟨place, fault, ⟨fails, before⟩, rfl⟩
    cases place with
    | subject => exact .inl ⟨fault, fails, rfl⟩
    | predicate =>
        have subject := List.forall_mem_singleton.mp before
        exact .inr ⟨(), subject, .inl ⟨fault, fails, rfl⟩⟩
    | object =>
        obtain ⟨subject, before⟩ := List.forall_mem_cons.mp before
        have predicate := List.forall_mem_singleton.mp before
        exact .inr ⟨(), subject, .inr ⟨(), predicate, fault, fails, rfl⟩⟩

theorem renderFrom_cons_eq_error_iff :
    renderFrom index (s :: statements) = .error e ↔
      checkStatement index s = .error e ∨
        (Fits s ∧ renderFrom (index + 1) statements = .error e) := by
  rw [renderFrom]
  simp only [bind_eq_error_iff, checkStatement_eq_ok_iff]
  constructor
  · rintro (error | ⟨_, fits, error | ⟨_, _, written⟩⟩)
    · exact .inl error
    · exact .inr ⟨fits, error⟩
    · cases written
  · rintro (error | ⟨fits, error⟩)
    · exact .inl error
    · exact .inr ⟨(), fits, .inl error⟩

/-- The error about statements is about the first of them that does not fit. -/
theorem renderFrom_eq_error_iff :
    renderFrom index statements = .error e ↔
      ∃ front s back place fault, statements = front ++ s :: back ∧ (∀ t ∈ front, Fits t) ∧
        FailsFirstAt s place fault ∧
        e = ⟨index + front.length, place, s.token place, fault⟩ := by
  induction statements generalizing index with
  | nil =>
      constructor
      · intro error
        cases error
      · rintro ⟨front, _, _, _, _, none, _⟩
        simp at none
  | cons first statements ih =>
      rw [renderFrom_cons_eq_error_iff, checkStatement_eq_error_iff, ih]
      constructor
      · rintro (⟨place, fault, fails, rfl⟩ |
          ⟨fits, front, s, back, place, fault, rfl, before, fails, rfl⟩)
        · exact ⟨[], first, statements, place, fault, rfl, nofun, fails, rfl⟩
        · refine ⟨first :: front, s, back, place, fault, rfl,
            List.forall_mem_cons.mpr ⟨fits, before⟩, fails, ?_⟩
          rw [List.length_cons, Nat.add_assoc, Nat.add_comm 1]
      · rintro ⟨front, s, back, place, fault, split, before, fails, rfl⟩
        cases front with
        | nil =>
            obtain ⟨rfl, rfl⟩ := List.cons.inj split
            exact .inl ⟨place, fault, fails, rfl⟩
        | cons head front =>
            obtain ⟨rfl, rfl⟩ := List.cons.inj split
            obtain ⟨fits, before⟩ := List.forall_mem_cons.mp before
            refine .inr ⟨fits, front, s, back, place, fault, rfl, before, fails, ?_⟩
            rw [List.length_cons, Nat.add_assoc, Nat.add_comm 1]

end Errors

/-! ### Texts -/

section Texts

variable {s s' : Statement} {statements others : List Statement} {text text' : String}

/-- The text of statements is that of the first ones followed by that of the others. -/
theorem render_append_eq_ok_iff :
    render (statements ++ others) = .ok text ↔
      ∃ front back, render statements = .ok front ∧ render others = .ok back ∧
        text = front ++ back := by
  simp only [render, renderFrom_eq_ok_iff, List.forall_mem_append, List.flatMap_append]
  constructor
  · rintro ⟨⟨fits, fits'⟩, written⟩
    refine ⟨_, _, ⟨fits, String.toList_ofList⟩, ⟨fits', String.toList_ofList⟩, ?_⟩
    rw [← String.toList_inj, written, String.toList_append, String.toList_ofList,
      String.toList_ofList]
  · rintro ⟨front, back, ⟨fits, written⟩, ⟨fits', written'⟩, rfl⟩
    exact ⟨⟨fits, fits'⟩, by rw [String.toList_append, written, written']⟩

theorem count_newline_of_render (rendered : render statements = .ok text) :
    text.toList.count '\n' = statements.length := by
  rw [toList_of_render rendered, Text.count_newline_flatMap (newline_notMem_of_render rendered),
    List.length_map]

/-- The line of a statement about IRIs determines the statement. -/
theorem lineOf_injective (h : IsAboutIris s) (h' : IsAboutIris s') (same : lineOf s = lineOf s') :
    s = s' := by
  obtain ⟨subject, rest⟩ := Text.append_separator_inj (iriRef_of_isIri h.subject).blank_notMem
    (iriRef_of_isIri h'.subject).blank_notMem same
  obtain ⟨predicate, rest⟩ := Text.append_separator_inj (iriRef_of_isIri h.predicate).blank_notMem
    (iriRef_of_isIri h'.predicate).blank_notMem rest
  have object := List.append_cancel_right rest
  obtain ⟨_, _, _⟩ := s
  rw [String.toList_inj] at subject predicate object
  cases subject
  cases predicate
  cases object
  rfl

/-- The text of statements about IRIs determines the statements. -/
theorem render_injective (h : ∀ s ∈ statements, IsAboutIris s) (h' : ∀ s ∈ others, IsAboutIris s)
    (rendered : render statements = .ok text) (rendered' : render others = .ok text) :
    statements = others := by
  have lines : statements.map lineOf = others.map lineOf := by
    rw [← linesOf_of_render rendered, linesOf_of_render rendered']
  clear rendered rendered'
  induction statements generalizing others with
  | nil => exact (List.map_eq_nil_iff.mp lines.symm).symm
  | cons s statements ih =>
      cases others with
      | nil => cases lines
      | cons s' others =>
          obtain ⟨here, after⟩ := List.forall_mem_cons.mp h
          obtain ⟨here', after'⟩ := List.forall_mem_cons.mp h'
          obtain ⟨line, lines⟩ := List.cons.inj lines
          rw [lineOf_injective here here' line, ih after after' lines]

end Texts

/-- Statements are written if and only if every token fits its place. If not, the error is about the
first statement with a token that does not, and about the first such token in the order of subject,
predicate and object. A text that is written has a line feed for every statement; the text of two
lists together is that of the one followed by that of the other; and where subjects and predicates
are IRIs, no other statements have the same text. -/
theorem render_all_or_nothing (statements : List Statement) :
    ((∃ text, render statements = .ok text) ↔
      ∀ s ∈ statements, ∀ place, fault? place (s.token place) = none) ∧
    (∀ e, render statements = .error e ↔
      ∃ front s back, statements = front ++ s :: back ∧
        (∀ t ∈ front, ∀ place, fault? place (t.token place) = none) ∧
        FailsFirstAt s e.place e.fault ∧ e.token = s.token e.place ∧ e.index = front.length) ∧
    ∀ text, render statements = .ok text →
      text.toList.count '\n' = statements.length ∧
      (∀ others text', render others = .ok text' →
        render (statements ++ others) = .ok (text ++ text')) ∧
      ((∀ s ∈ statements, IsAboutIris s) → ∀ others, (∀ s ∈ others, IsAboutIris s) →
        render others = .ok text → statements = others) := by
  refine ⟨?_, fun e => ?_, fun text rendered => ⟨count_newline_of_render rendered, ?_, ?_⟩⟩
  · simp only [exists_render_iff, fits_iff]
  · simp only [render, renderFrom_eq_error_iff, fits_iff, Nat.zero_add]
    constructor
    · rintro ⟨front, s, back, place, fault, split, before, fails, rfl⟩
      exact ⟨front, s, back, split, before, fails, rfl, rfl⟩
    · rintro ⟨front, s, back, split, before, fails, token, index⟩
      refine ⟨front, s, back, e.place, e.fault, split, before, fails, ?_⟩
      rw [← token, ← index]
  · intro others text' rendered'
    exact render_append_eq_ok_iff.mpr ⟨text, text', rendered, rendered', rfl⟩
  · exact fun iris others iris' rendered' => render_injective iris iris' rendered rendered'

/-- A note with brackets, a point and quotation marks, and a link. -/
def noteStatements : List Statement :=
  [⟨"<urn:a>", "<urn:note>", "\"see <b> .\""⟩, ⟨"<urn:a>", "<urn:next>", "<urn:b>"⟩]

/-- The note and the link have two lines, twice as many if they are written twice, and no other
statements about IRIs have the same text. -/
theorem render_all_or_nothing_notes :
    (∀ s ∈ noteStatements, IsAboutIris s) ∧
    ∃ text, render noteStatements = .ok text ∧ text.toList.count '\n' = 2 ∧
      render (noteStatements ++ noteStatements) = .ok (text ++ text) ∧
      ∀ others, (∀ s ∈ others, IsAboutIris s) → render others = .ok text →
        noteStatements = others := by
  have iris : ∀ s ∈ noteStatements, IsAboutIris s := by decide
  obtain ⟨⟨_, written⟩, _, texts⟩ := render_all_or_nothing noteStatements
  have fits : ∀ s ∈ noteStatements, ∀ place, fault? place (s.token place) = none := by
    simp only [← fits_iff]
    decide
  obtain ⟨text, rendered⟩ := written fits
  obtain ⟨lines, append, unique⟩ := texts text rendered
  exact ⟨iris, text, rendered, lines, append _ _ rendered, unique iris⟩

end NTriples

end RowTriples
