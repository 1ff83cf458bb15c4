/-!
# Statements

A statement says of a subject that a predicate relates it to an object. Its three parts are tokens
of N-Triples already: an IRI in angle brackets or, as object, a literal.
-/

namespace RowTriples

/-- A statement of three tokens. -/
structure Statement where
  subject : String
  predicate : String
  object : String
  deriving DecidableEq

namespace Statement

/-- Whether two statements are about the same predicate of the same subject. -/
def sameSlot (s t : Statement) : Bool :=
  s.subject = t.subject && s.predicate = t.predicate

theorem sameSlot_iff {s t : Statement} :
    s.sameSlot t = true ↔ s.subject = t.subject ∧ s.predicate = t.predicate := by
  simp [sameSlot]

@[simp] theorem sameSlot_self (s : Statement) : s.sameSlot s = true := by
  simp [sameSlot]

end Statement

end RowTriples
