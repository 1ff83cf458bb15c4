import RowTriples.Proofs.NTriples.Tokens
import RowTriples.Proofs.Text.Lines
/-!
# The grammar of a line

A line of N-Triples is a subject, a predicate and an object with a point behind them. Subject and
predicate are IRIs in angle brackets; the object is such an IRI or a literal: text in quotation
marks in which quotation marks, backslashes and line breaks are escaped, and behind it the IRI of a
datatype, if there is one. The productions are written down here by themselves.

Both the quoted text and the tokens of a line can be read off in only one way. So a written
statement is a line of the grammar if and only if its object is one, and a literal with a datatype
is one if and only if the IRI of the datatype is clean.
-/

namespace RowTriples.NTriples

/-- A character that may stand between the brackets of an IRI. -/
def IriChar (c : Char) : Prop :=
  ' ' < c ∧ c ∉ ['<', '>', '"', '\x7b', '\x7d', '|', '^', '\x60', '\\']

inductive IriRef : List Char → Prop where
  | mk {inside : List Char} (allowed : ∀ c ∈ inside, IriChar c) : IriRef ('<' :: (inside ++ ['>']))

/-- What stands between the quotation marks of a literal. -/
inductive Body : List Char → Prop where
  | nil : Body []
  | plain {c : Char} {cs : List Char} (plain : c ∉ ['\\', '"', '\n', '\r']) (rest : Body cs) :
      Body (c :: cs)
  | escape {letter : Char} {cs : List Char}
      (known : letter ∈ ['\\', '"', 'n', 'r', 't', 'b', 'f', '\x27']) (rest : Body cs) :
      Body ('\\' :: letter :: cs)

inductive Literal : List Char → Prop where
  | plain {body : List Char} (quoted : Body body) : Literal ('"' :: (body ++ ['"']))
  | typed {body datatype : List Char} (quoted : Body body) (named : IriRef datatype) :
      Literal ('"' :: (body ++ '"' :: '^' :: '^' :: datatype))

/-- A line, without the break at its end. -/
inductive Triple : List Char → Prop where
  | mk {subject predicate object : List Char} (named : IriRef subject) (related : IriRef predicate)
      (said : IriRef object ∨ Literal object) :
      Triple (subject ++ ' ' :: (predicate ++ ' ' :: (object ++ [' ', '.'])))

/-! ### IRIs -/

theorem iriChar_iff {c : Char} : IriChar c ↔ isForbiddenInIri c = false := by
  simp [IriChar, isForbiddenInIri]

theorem iriRef_iff {inside : List Char} :
    IriRef ('<' :: (inside ++ ['>'])) ↔ ∀ c ∈ inside, isForbiddenInIri c = false := by
  constructor
  · intro h
    generalize token : '<' :: (inside ++ ['>']) = cs at h
    obtain ⟨allowed⟩ := h
    obtain rfl := List.append_cancel_right (List.cons.inj token).2
    exact fun c member => iriChar_iff.mp (allowed c member)
  · intro clean
    exact .mk fun c member => iriChar_iff.mpr (clean c member)

theorem iriRef_iriToken {iri : String} : IriRef (iriToken iri).toList ↔ IsClean iri := by
  rw [toList_iriToken]
  exact iriRef_iff

theorem iriRef_of_isIri {token : String} (iri : isIri token = true) : IriRef token.toList := by
  obtain ⟨inside, _, shape, clean⟩ := isIri_iff.mp iri
  rw [shape]
  exact iriRef_iff.mpr clean

/-- A token of the grammar without blanks ends at the first blank. -/
theorem IriRef.blank_notMem {cs : List Char} (h : IriRef cs) : ' ' ∉ cs := by
  obtain ⟨allowed⟩ := h
  intro member
  rw [List.mem_cons, List.mem_append, List.mem_singleton] at member
  rcases member with same | member | same
  · exact absurd same (by decide)
  · exact absurd (allowed ' ' member).1 (by decide)
  · exact absurd same (by decide)

/-- An IRI does not begin like a literal. -/
theorem not_iriRef_of_quoted {cs : List Char} : ¬IriRef ('"' :: cs) := by
  generalize token : '"' :: cs = ds
  rintro ⟨_⟩
  exact absurd (List.cons.inj token).1 (by decide)

/-! ### Quoted text -/

/-- The quoted text ends at the first quotation mark that is not escaped, whatever follows it. -/
theorem Body.unique {body body' rest rest' : List Char} (h : Body body) (h' : Body body')
    (same : body ++ '"' :: rest = body' ++ '"' :: rest') : body = body' ∧ rest = rest' := by
  induction h generalizing body' with
  | nil =>
      cases h' with
      | nil => exact ⟨rfl, (List.cons.inj same).2⟩
      | plain plain =>
          obtain ⟨rfl, _⟩ := List.cons.inj same
          exact absurd plain (by decide)
      | escape => exact absurd (List.cons.inj same).1 (by decide)
  | plain plain _ ih =>
      cases h' with
      | nil =>
          obtain ⟨rfl, _⟩ := List.cons.inj same
          exact absurd plain (by decide)
      | plain _ others =>
          obtain ⟨rfl, tail⟩ := List.cons.inj same
          obtain ⟨rfl, rfl⟩ := ih others tail
          exact ⟨rfl, rfl⟩
      | escape =>
          obtain ⟨rfl, _⟩ := List.cons.inj same
          exact absurd plain (by decide)
  | escape _ _ ih =>
      cases h' with
      | nil => exact absurd (List.cons.inj same).1 (by decide)
      | plain plain =>
          obtain ⟨rfl, _⟩ := List.cons.inj same
          exact absurd plain (by decide)
      | escape _ others =>
          obtain ⟨rfl, tail⟩ := List.cons.inj (List.cons.inj same).2
          obtain ⟨rfl, rfl⟩ := ih others tail
          exact ⟨rfl, rfl⟩

theorem Body.append {body body' : List Char} (h : Body body) (h' : Body body') :
    Body (body ++ body') := by
  induction h with
  | nil => exact h'
  | plain plain _ ih => exact .plain plain ih
  | escape known _ ih => exact .escape known ih

theorem body_escaped (c : Char) : Body (escaped c) := by
  rcases escaped_cases c with ⟨same, plain⟩ | ⟨letter, isLetter, same⟩
  · rw [same]
    have unquoted : ['\\', '"', '\n', '\r'] ⊆ ['\\', '"', '\n', '\r', '\t'] := by decide
    exact .plain (fun member => plain (unquoted member)) .nil
  · rw [same]
    refine .escape ?_ .nil
    have known : ['\\', '"', 'n', 'r', 't'] ⊆ ['\\', '"', 'n', 'r', 't', 'b', 'f', '\x27'] := by
      decide
    exact known isLetter

/-- Escaped text can stand between quotation marks. -/
theorem body_flatMap_escaped (cs : List Char) : Body (cs.flatMap escaped) := by
  induction cs with
  | nil => exact .nil
  | cons c cs ih =>
      rw [List.flatMap_cons]
      exact (body_escaped c).append ih

/-! ### Literals -/

theorem literal_plainLiteral (text : String) : Literal (plainLiteral text).toList := by
  rw [toList_plainLiteral]
  exact .plain (body_flatMap_escaped text.toList)

/-- A literal with a datatype is one of the grammar if and only if its datatype is clean. -/
theorem literal_typedLiteral {text datatype : String} :
    Literal (typedLiteral text datatype).toList ↔ IsClean datatype := by
  have body := body_flatMap_escaped text.toList
  rw [toList_typedLiteral, ← iriRef_iriToken]
  constructor
  · intro h
    generalize token : '"' :: (text.toList.flatMap escaped ++
      '"' :: '^' :: '^' :: (iriToken datatype).toList) = cs at h
    cases h with
    | plain quoted =>
        obtain ⟨_, rest⟩ := body.unique quoted (List.cons.inj token).2
        cases rest
    | typed quoted named =>
        obtain ⟨_, rest⟩ := body.unique quoted (List.cons.inj token).2
        obtain rfl := (List.cons.inj (List.cons.inj rest).2).2
        exact named
  · intro named
    exact .typed body named

theorem plainLiteral_ne_typedLiteral {text text' datatype : String} :
    plainLiteral text ≠ typedLiteral text' datatype := by
  intro same
  have same := congrArg String.toList same
  rw [toList_plainLiteral, toList_typedLiteral] at same
  obtain ⟨_, rest⟩ := (body_flatMap_escaped text.toList).unique (body_flatMap_escaped text'.toList)
    (List.cons.inj same).2
  cases rest

theorem iriToken_injective {iri iri' : String} (same : iriToken iri = iriToken iri') :
    iri = iri' := by
  have same := congrArg String.toList same
  rw [toList_iriToken, toList_iriToken] at same
  exact String.toList_inj.mp (List.append_cancel_right (List.cons.inj same).2)

theorem typedLiteral_injective {text text' datatype datatype' : String}
    (same : typedLiteral text datatype = typedLiteral text' datatype') : datatype = datatype' := by
  have same := congrArg String.toList same
  rw [toList_typedLiteral, toList_typedLiteral] at same
  obtain ⟨_, rest⟩ := (body_flatMap_escaped text.toList).unique (body_flatMap_escaped text'.toList)
    (List.cons.inj same).2
  exact iriToken_injective (String.toList_inj.mp (List.cons.inj (List.cons.inj rest).2).2)

/-! ### Lines -/

def lineOf (s : Statement) : List Char :=
  s.subject.toList ++ ' ' :: (s.predicate.toList ++ ' ' :: (s.object.toList ++ [' ', '.']))

theorem toList_line (s : Statement) : (line s).toList = lineOf s ++ ['\n'] := by
  simp [line, lineOf]

/-- A statement about IRIs is a line of the grammar if and only if its object is one of the
grammar. -/
theorem triple_lineOf_iff {s : Statement} (subject : isIri s.subject = true)
    (predicate : isIri s.predicate = true) :
    Triple (lineOf s) ↔ IriRef s.object.toList ∨ Literal s.object.toList := by
  have named := iriRef_of_isIri subject
  have related := iriRef_of_isIri predicate
  constructor
  · intro h
    generalize whole : lineOf s = cs at h
    obtain ⟨named', related', said⟩ := h
    obtain ⟨_, rest⟩ := Text.append_separator_inj named.blank_notMem named'.blank_notMem whole
    obtain ⟨_, rest⟩ := Text.append_separator_inj related.blank_notMem related'.blank_notMem rest
    rw [List.append_cancel_right rest]
    exact said
  · intro said
    exact .mk named related said

theorem newline_notMem_lineOf {s : Statement} (fits : Fits s) : '\n' ∉ lineOf s := by
  have subject := (fault?_eq_none_iff.mp fits.subject).1
  have predicate := (fault?_eq_none_iff.mp fits.predicate).1
  have object := (fault?_eq_none_iff.mp fits.object).1
  intro member
  simp only [lineOf, List.mem_append, List.mem_cons, List.not_mem_nil, or_false] at member
  rcases member with member | same | member | same | member | same | same
  · exact (subject _ member).1 rfl
  · exact absurd same (by decide)
  · exact (predicate _ member).1 rfl
  · exact absurd same (by decide)
  · exact (object _ member).1 rfl
  · exact absurd same (by decide)
  · exact absurd same (by decide)

section Lines

variable {statements : List Statement} {text : String}

theorem toList_of_render (rendered : render statements = .ok text) :
    text.toList = (statements.map lineOf).flatMap fun line => line ++ ['\n'] := by
  rw [(renderFrom_eq_ok_iff.mp rendered).2, List.flatMap_map]
  simp only [toList_line]

theorem newline_notMem_of_render (rendered : render statements = .ok text) :
    ∀ line ∈ statements.map lineOf, '\n' ∉ line := by
  intro line member
  obtain ⟨s, statementMember, rfl⟩ := List.mem_map.mp member
  exact newline_notMem_lineOf ((renderFrom_eq_ok_iff.mp rendered).1 s statementMember)

/-- The lines of what is written are those of the statements. -/
theorem linesOf_of_render (rendered : render statements = .ok text) :
    Text.linesOf '\n' text.toList = statements.map lineOf := by
  rw [toList_of_render rendered]
  exact Text.linesOf_flatMap (newline_notMem_of_render rendered)

end Lines

end RowTriples.NTriples
