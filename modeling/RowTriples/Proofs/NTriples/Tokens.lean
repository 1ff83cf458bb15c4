import RowTriples.NTriples
import RowTriples.Proofs.Pointwise
/-!
# Tokens that can be written

A token is looked at once, when its statement is written. Here the look is taken apart by where the
token comes from. The token of a resource passes if and only if its name is a bare one or an IRI
without forbidden characters: a bare name is percent-encoded byte by byte, and no byte is encoded by
a forbidden character. A literal passes because its line breaks are escaped; only the IRI of a
datatype can bring one in.
-/

namespace RowTriples

theorem Text.startsWith_iff {start text : String} :
    Text.startsWith start text = true ↔ ∃ rest, text.toList = start.toList ++ rest := by
  unfold startsWith
  rw [Option.isSome_iff_exists]
  exact exists_congr fun rest => after?_eq_some_iff

namespace NTriples

/-- A text without characters that are forbidden in an IRI. -/
def IsClean (text : String) : Prop :=
  ∀ c ∈ text.toList, isForbiddenInIri c = false

/-- A name that may stand for a resource: if it is an IRI of its own, it has to be a clean one. -/
def IsCleanName (name : String) : Prop :=
  isAbsolute name = true → IsClean name

/-- A text that does not break a line. -/
def IsUnbroken (text : String) : Prop :=
  ∀ c ∈ text.toList, c ≠ '\n' ∧ c ≠ '\r'

instance (text : String) : Decidable (IsClean text) :=
  List.decidableBAll (fun c => isForbiddenInIri c = false) text.toList

instance (name : String) : Decidable (IsCleanName name) :=
  inferInstanceAs (Decidable (isAbsolute name = true → IsClean name))

instance (text : String) : Decidable (IsUnbroken text) :=
  List.decidableBAll (fun c => c ≠ '\n' ∧ c ≠ '\r') text.toList

theorem IsClean.isUnbroken {text : String} (h : IsClean text) : IsUnbroken text := by
  intro c member
  have allowed := h c member
  constructor
  · rintro rfl
    exact absurd allowed (by decide)
  · rintro rfl
    exact absurd allowed (by decide)

@[simp] theorem isClean_append {a b : String} : IsClean (a ++ b) ↔ IsClean a ∧ IsClean b := by
  simp only [IsClean, String.toList_append, List.forall_mem_append]

@[simp] theorem isUnbroken_append {a b : String} :
    IsUnbroken (a ++ b) ↔ IsUnbroken a ∧ IsUnbroken b := by
  simp only [IsUnbroken, String.toList_append, List.forall_mem_append]

/-! ### Resources -/

theorem toList_iriToken (iri : String) : (iriToken iri).toList = '<' :: (iri.toList ++ ['>']) := by
  simp [iriToken]

theorem isIri_iff {token : String} :
    isIri token = true ↔ ∃ inside, inside ≠ [] ∧ token.toList = '<' :: (inside ++ ['>']) ∧
      ∀ c ∈ inside, isForbiddenInIri c = false := by
  unfold isIri
  constructor
  · intro iri
    split at iri
    next c rest shape =>
      split at iri
      next inside reversed =>
        have opened : c :: rest = inside.reverse ++ ['>'] := by
          rw [← List.reverse_reverse (c :: rest), reversed, List.reverse_cons]
        rw [Bool.and_eq_true, Bool.not_eq_true', Bool.not_eq_true'] at iri
        refine ⟨inside.reverse, ?_, by rw [shape, opened], ?_⟩
        · simpa using iri.1
        · simpa using iri.2
      next => cases iri
    next => cases iri
  · rintro ⟨inside, nonempty, shape, clean⟩
    obtain ⟨c, rest, rfl⟩ := List.exists_cons_of_ne_nil nonempty
    have reversed : (c :: (rest ++ ['>'])).reverse = '>' :: (c :: rest).reverse := by simp
    rw [shape, List.cons_append]
    simp only [reversed, Bool.and_eq_true, Bool.not_eq_true']
    exact ⟨by simp, List.any_eq_false.mpr fun d member => by
      simpa using clean d (List.mem_reverse.mp member)⟩

theorem isIri_iriToken {iri : String} : isIri (iriToken iri) = true ↔ iri ≠ "" ∧ IsClean iri := by
  rw [isIri_iff, toList_iriToken]
  constructor
  · rintro ⟨inside, nonempty, shape, clean⟩
    obtain rfl : iri.toList = inside := List.append_cancel_right (List.cons.inj shape).2
    exact ⟨fun none => nonempty (by rw [none]; rfl), clean⟩
  · rintro ⟨nonempty, clean⟩
    exact ⟨iri.toList, fun none => nonempty (String.toList_eq_nil_iff.mp none), rfl, clean⟩

/-- No byte is percent-encoded by a forbidden character. -/
theorem isForbiddenInIri_of_mem_encodeByte {b : UInt8} {c : Char} (member : c ∈ encodeByte b) :
    isForbiddenInIri c = false := by
  have each : ∀ n < 256, (encodeByte (UInt8.ofNat n)).any isForbiddenInIri = false := by
    decide +kernel
  have here := each b.toNat b.toNat_lt
  rw [UInt8.ofNat_toNat] at here
  simpa using List.any_eq_false.mp here c member

theorem isClean_percentEncoded (name : String) : IsClean (percentEncoded name) := by
  intro c member
  rw [percentEncoded, String.toList_ofList] at member
  obtain ⟨b, _, member⟩ := List.mem_flatMap.mp member
  exact isForbiddenInIri_of_mem_encodeByte member

theorem ne_empty_of_isAbsolute {name : String} (absolute : isAbsolute name = true) : name ≠ "" := by
  rintro rfl
  exact absurd absolute (by decide)

/-- The token of a resource is an IRI if and only if its name is clean. -/
theorem isIri_resource {vocabulary : Vocabulary} (base : IsClean vocabulary.base) {name : String} :
    isIri (vocabulary.resource name) = true ↔ IsCleanName name := by
  unfold Vocabulary.resource IsCleanName
  split
  next absolute =>
    rw [isIri_iriToken]
    exact ⟨fun h _ => h.2, fun h => ⟨ne_empty_of_isAbsolute absolute, h absolute⟩⟩
  next relative =>
    have clean : IsClean (vocabulary.base ++ "/" ++ percentEncoded name) :=
      isClean_append.mpr ⟨isClean_append.mpr ⟨base, by decide⟩, isClean_percentEncoded name⟩
    have nonempty : vocabulary.base ++ "/" ++ percentEncoded name ≠ "" := by
      intro none
      have := congrArg String.toList none
      simp at this
    exact ⟨fun _ absolute => absurd absolute relative, fun _ =>
      isIri_iriToken.mpr ⟨nonempty, clean⟩⟩

/-- The token of a resource is that of an IRI. -/
theorem exists_resource_eq (vocabulary : Vocabulary) (name : String) :
    ∃ iri, vocabulary.resource name = iriToken iri := by
  unfold Vocabulary.resource
  split
  · exact ⟨_, rfl⟩
  · exact ⟨_, rfl⟩

theorem resource_rdfType (vocabulary : Vocabulary) :
    vocabulary.resource rdfType = iriToken rdfType :=
  if_pos (by decide +kernel)

theorem isIri_iriToken_rdfType : isIri (iriToken rdfType) = true := by decide +kernel

/-! ### Literals -/

theorem toList_plainLiteral (text : String) :
    (plainLiteral text).toList = '"' :: (text.toList.flatMap escaped ++ ['"']) := by
  simp [plainLiteral]

theorem toList_typedLiteral (text datatype : String) :
    (typedLiteral text datatype).toList = '"' :: (text.toList.flatMap escaped ++
      '"' :: '^' :: '^' :: (iriToken datatype).toList) := by
  simp [typedLiteral, toList_plainLiteral]

/-- A character stands in a literal for itself or, behind a backslash, as a letter. -/
theorem escaped_cases (c : Char) :
    (escaped c = [c] ∧ c ∉ ['\\', '"', '\n', '\r', '\t']) ∨
      ∃ letter ∈ ['\\', '"', 'n', 'r', 't'], escaped c = ['\\', letter] := by
  unfold escaped
  split
  · exact .inr ⟨'\\', by decide, rfl⟩
  split
  · exact .inr ⟨'"', by decide, rfl⟩
  split
  · exact .inr ⟨'n', by decide, rfl⟩
  split
  · exact .inr ⟨'r', by decide, rfl⟩
  split
  · exact .inr ⟨'t', by decide, rfl⟩
  · exact .inl ⟨rfl, by simp_all⟩

theorem notMem_controls_of_mem_escaped {c d : Char} (member : d ∈ escaped c) :
    d ∉ ['\n', '\r', '\t'] := by
  rcases escaped_cases c with ⟨same, plain⟩ | ⟨letter, isLetter, same⟩
  · rw [same, List.mem_singleton] at member
    rw [member]
    simp_all
  · have visible : ∀ letter ∈ ['\\', '"', 'n', 'r', 't'], letter ∉ ['\n', '\r', '\t'] := by simp
    rw [same, List.mem_cons, List.mem_singleton] at member
    rcases member with rfl | rfl
    · decide
    · exact visible d isLetter

/-- Line breaks and tabs are written as letters. -/
theorem notMem_controls_of_mem_plainLiteral {text : String} {c : Char}
    (member : c ∈ (plainLiteral text).toList) : c ∉ ['\n', '\r', '\t'] := by
  rw [toList_plainLiteral, List.mem_cons, List.mem_append, List.mem_flatMap] at member
  rcases member with rfl | ⟨d, _, member⟩ | member
  · decide
  · exact notMem_controls_of_mem_escaped member
  · obtain rfl := List.mem_singleton.mp member
    decide

theorem isUnbroken_plainLiteral (text : String) : IsUnbroken (plainLiteral text) := by
  intro c member
  have visible := notMem_controls_of_mem_plainLiteral member
  constructor
  · rintro rfl
    exact visible (by decide)
  · rintro rfl
    exact visible (by decide)

@[simp] theorem isUnbroken_iriToken {iri : String} :
    IsUnbroken (iriToken iri) ↔ IsUnbroken iri := by
  have opening : IsUnbroken "<" := by decide
  have closing : IsUnbroken ">" := by decide
  rw [iriToken, isUnbroken_append, isUnbroken_append]
  exact ⟨fun h => h.1.2, fun h => ⟨⟨opening, h⟩, closing⟩⟩

/-- A literal breaks a line only by its datatype. -/
theorem isUnbroken_typedLiteral {text datatype : String} :
    IsUnbroken (typedLiteral text datatype) ↔ IsUnbroken datatype := by
  have between : IsUnbroken "^^" := by decide
  rw [typedLiteral, isUnbroken_append, isUnbroken_append, isUnbroken_iriToken]
  exact ⟨fun h => h.2, fun h => ⟨⟨isUnbroken_plainLiteral text, between⟩, h⟩⟩

/-! ### Places -/

theorem fault?_eq_none_iff {place : Place} {token : String} :
    fault? place token = none ↔ IsUnbroken token ∧ (isIri token = true ∨
      Text.startsWith "_:" token = true ∨
        (place = .object ∧ Text.startsWith "\"" token = true)) := by
  have breaks : (token.toList.any fun c => c = '\n' || c = '\r') = false ↔ IsUnbroken token := by
    simp [IsUnbroken, List.any_eq_false]
  unfold fault?
  split
  next none =>
    obtain rfl : token = "" := by simpa using none
    cases place <;> decide
  next =>
    cases broken : token.toList.any fun c => c = '\n' || c = '\r' with
    | true =>
        have broken : ¬IsUnbroken token := fun h => by
          rw [breaks.mpr h] at broken
          cases broken
        simp [broken]
    | false =>
        have unbroken := breaks.mp broken
        cases isIri token <;> cases Text.startsWith "_:" token <;>
          cases Text.startsWith "\"" token <;> simp [unbroken]

theorem startsWith_iriToken (iri start : String) {c : Char} {rest : List Char}
    (begins : start.toList = c :: rest) (other : c ≠ '<') :
    Text.startsWith start (iriToken iri) = false := by
  rw [Bool.eq_false_iff, Ne, Text.startsWith_iff, toList_iriToken, begins]
  rintro ⟨_, same⟩
  exact other (List.cons.inj same).1.symm

/-- An IRI in angle brackets fits every place if it is clean, and no place otherwise. -/
theorem fault?_iriToken {place : Place} {iri : String} :
    fault? place (iriToken iri) = none ↔ isIri (iriToken iri) = true := by
  rw [fault?_eq_none_iff, startsWith_iriToken iri "_:" rfl (by decide),
    startsWith_iriToken iri "\"" rfl (by decide)]
  simp only [Bool.false_eq_true, and_false, or_false]
  refine ⟨fun h => h.2, fun h => ⟨?_, h⟩⟩
  exact isUnbroken_iriToken.mpr (isIri_iriToken.mp h).2.isUnbroken

theorem fault?_resource {vocabulary : Vocabulary} (base : IsClean vocabulary.base) {place : Place}
    {name : String} : fault? place (vocabulary.resource name) = none ↔ IsCleanName name := by
  obtain ⟨iri, token⟩ := exists_resource_eq vocabulary name
  rw [← isIri_resource base, token]
  exact fault?_iriToken

/-- A token in quotation marks fits as an object unless it breaks the line. -/
theorem fault?_object_of_quoted {token : String} {rest : List Char}
    (quoted : token.toList = '"' :: rest) : fault? .object token = none ↔ IsUnbroken token := by
  have begins : Text.startsWith "\"" token = true := Text.startsWith_iff.mpr ⟨rest, quoted⟩
  rw [fault?_eq_none_iff, begins]
  simp

theorem fault?_plainLiteral (text : String) : fault? .object (plainLiteral text) = none :=
  (fault?_object_of_quoted (toList_plainLiteral text)).mpr (isUnbroken_plainLiteral text)

theorem fault?_typedLiteral {text datatype : String} :
    fault? .object (typedLiteral text datatype) = none ↔ IsUnbroken datatype :=
  (fault?_object_of_quoted (toList_typedLiteral text datatype)).trans isUnbroken_typedLiteral

/-! ### Statements -/

/-- Every token of the statement fits its place. -/
structure Fits (s : Statement) : Prop where
  subject : fault? .subject s.subject = none
  predicate : fault? .predicate s.predicate = none
  object : fault? .object s.object = none

instance (s : Statement) : Decidable (Fits s) :=
  decidable_of_iff (fault? .subject s.subject = none ∧ fault? .predicate s.predicate = none ∧
    fault? .object s.object = none)
    ⟨fun h => ⟨h.1, h.2.1, h.2.2⟩, fun h => ⟨h.subject, h.predicate, h.object⟩⟩

theorem check_eq_ok_iff {index : Nat} {place : Place} {token : String} {done : Unit} :
    check index place token = .ok done ↔ fault? place token = none := by
  unfold check
  split
  next found => simp [found]
  next found => simp [found]

theorem checkStatement_eq_ok_iff {index : Nat} {s : Statement} {done : Unit} :
    checkStatement index s = .ok done ↔ Fits s := by
  simp only [checkStatement, bind_eq_ok_iff, check_eq_ok_iff]
  constructor
  · rintro ⟨_, subject, _, predicate, object⟩
    exact ⟨subject, predicate, object⟩
  · rintro ⟨subject, predicate, object⟩
    exact ⟨(), subject, (), predicate, object⟩

/-- Statements are written if each of them fits, and then they are written line by line. -/
theorem renderFrom_eq_ok_iff {index : Nat} {statements : List Statement} {text : String} :
    renderFrom index statements = .ok text ↔
      (∀ s ∈ statements, Fits s) ∧ text.toList = statements.flatMap fun s => (line s).toList := by
  induction statements generalizing index text with
  | nil =>
      rw [renderFrom, Except.ok.injEq, eq_comm]
      simp
  | cons s statements ih =>
      rw [renderFrom, bind_eq_ok_iff]
      simp only [checkStatement_eq_ok_iff, bind_eq_ok_iff, ih, List.forall_mem_cons,
        List.flatMap_cons]
      constructor
      · rintro ⟨_, fits, rest, ⟨others, written⟩, same⟩
        cases same
        exact ⟨⟨fits, others⟩, by rw [String.toList_append, written]⟩
      · rintro ⟨⟨fits, others⟩, written⟩
        refine ⟨(), fits, String.ofList (statements.flatMap fun s => (line s).toList),
          ⟨others, String.toList_ofList⟩, ?_⟩
        refine congrArg Except.ok (String.toList_inj.mp ?_)
        rw [String.toList_append, String.toList_ofList, written]

theorem exists_render_iff {statements : List Statement} :
    (∃ text, render statements = .ok text) ↔ ∀ s ∈ statements, Fits s := by
  constructor
  · rintro ⟨text, rendered⟩
    exact (renderFrom_eq_ok_iff.mp rendered).1
  · intro fits
    exact ⟨String.ofList (statements.flatMap fun s => (line s).toList),
      renderFrom_eq_ok_iff.mpr ⟨fits, String.toList_ofList⟩⟩

end NTriples

end RowTriples
