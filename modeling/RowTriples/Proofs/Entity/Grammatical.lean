import RowTriples.Proofs.Entity.Written
import RowTriples.Proofs.NTriples.Grammar
import RowTriples.Proofs.NTriples.Literals
/-!
# The lines of a row

A row that is written is read again line by line. Its statements relate a resource to a resource or
a literal, whether a rule or a geocoder contributes them, and each of them fills a line. The tokens
of resources have been looked at when they were written. Of a literal only its line breaks were; the
quoted text is in order because it is escaped, but the datatype stands there as it is declared.
-/

namespace RowTriples

open NTriples

/-! ### The shape of statements -/

/-- The statement is about a resource and its predicate is one; its object is a resource or a
literal. -/
structure IsShaped (language : Language) (s : Statement) : Prop where
  subject : ∃ name, s.subject = language.vocabulary.resource name
  predicate : ∃ name, s.predicate = language.vocabulary.resource name
  object : (∃ name, s.object = language.vocabulary.resource name) ∨
    IsLiteral language.Datatype s.object

section Shape

variable {language : Language} {s : Statement}

theorem Fact.Says.isShaped {fact : Fact} {id type : String}
    (told : fact.Says language (language.vocabulary.resource id) type s) : IsShaped language s := by
  cases told with
  | type => exact ⟨⟨id, rfl⟩, ⟨rdfType, (resource_rdfType _).symm⟩, .inl ⟨type, rfl⟩⟩
  | @link _ _ predicate linked _ _ => exact ⟨⟨id, rfl⟩, ⟨predicate, rfl⟩, .inl ⟨linked, rfl⟩⟩
  | @value _ _ predicate _ _ _ _ literal =>
      exact ⟨⟨id, rfl⟩, ⟨predicate, rfl⟩, .inr (Typing.isLiteral_literal literal)⟩

/-- What a geocoder contributes are literals about the entity that was looked up. -/
theorem Lookup.isShaped {lookup : Lookup} (offered : s ∈ lookup.candidates language) :
    IsShaped language s := by
  have subject : ∃ name, lookup.subject language = language.vocabulary.resource name :=
    ⟨lookup.id, rfl⟩
  obtain ⟨feature, _, told⟩ := exists_match_of_offered offered
  cases told with
  | @fullText name _ => exact ⟨subject, ⟨Address.fullText, rfl⟩, .inr (.plain name)⟩
  | @part _ predicate text _ _ => exact ⟨subject, ⟨predicate, rfl⟩, .inr (.plain text)⟩
  | point _ literal =>
      exact ⟨subject, ⟨Address.geoPoint, rfl⟩, .inr (Typing.isLiteral_literal literal)⟩

/-- Every statement of a scope, at any depth, has this shape. -/
theorem Scope.isShaped {result : Scope} (written : s ∈ result.statements language) :
    IsShaped language s := by
  obtain ⟨chain, inner, _, told⟩ := result.exists_says written
  cases told with
  | fact _ _ told => exact told.isShaped
  | lookup _ offered => exact Lookup.isShaped offered

/-- The token of a resource is an IRI wherever it fits. -/
theorem isIri_of_fault?_resource {vocabulary : Vocabulary} {place : NTriples.Place} {token : String}
    (named : ∃ name, token = vocabulary.resource name) (fits : fault? place token = none) :
    isIri token = true := by
  obtain ⟨name, rfl⟩ := named
  obtain ⟨iri, token⟩ := exists_resource_eq vocabulary name
  rw [token] at fits ⊢
  exact fault?_iriToken.mp fits

theorem iriToken_ne_typedLiteral {iri text datatype : String} :
    iriToken iri ≠ typedLiteral text datatype := by
  intro same
  have same := congrArg String.toList same
  rw [toList_iriToken, toList_typedLiteral] at same
  exact absurd (List.cons.inj same).1 (by decide)

/-- The line of a statement that fits is one of the grammar if and only if the datatype of its
object, if it has one, is an IRI. -/
theorem IsShaped.triple_iff (h : IsShaped language s) (fits : Fits s) :
    Triple (lineOf s) ↔ ∀ text datatype, s.object = typedLiteral text datatype →
      IsClean datatype := by
  have subject := isIri_of_fault?_resource h.subject fits.subject
  have predicate := isIri_of_fault?_resource h.predicate fits.predicate
  rw [triple_lineOf_iff subject predicate]
  rcases h.object with ⟨name, same⟩ | literal
  · have object := isIri_of_fault?_resource ⟨name, same⟩ fits.object
    obtain ⟨iri, token⟩ := exists_resource_eq language.vocabulary name
    constructor
    · intro _ text datatype typed
      exact absurd (token.symm.trans (same.symm.trans typed)) iriToken_ne_typedLiteral
    · intro _
      exact .inl (iriRef_of_isIri object)
  · generalize s.object = object at literal
    cases literal with
    | plain text =>
        constructor
        · intro _ text' datatype typed
          exact absurd typed plainLiteral_ne_typedLiteral
        · intro _
          exact .inr (literal_plainLiteral text)
    | @typed text iri known =>
        constructor
        · rintro (named | typed) text' datatype same
          · rw [toList_typedLiteral] at named
            exact absurd named not_iriRef_of_quoted
          · obtain rfl := typedLiteral_injective same
            exact literal_typedLiteral.mp typed
        · intro clean
          exact .inr (literal_typedLiteral.mpr (clean text iri rfl))

theorem IsShaped.datatype (h : IsShaped language s) {text datatype : String}
    (typed : s.object = typedLiteral text datatype) : language.Datatype datatype := by
  rcases h.object with ⟨name, same⟩ | literal
  · obtain ⟨iri, token⟩ := exists_resource_eq language.vocabulary name
    exact absurd (token.symm.trans (same.symm.trans typed)) iriToken_ne_typedLiteral
  · generalize s.object = object at literal typed
    cases literal with
    | plain => exact absurd typed plainLiteral_ne_typedLiteral
    | typed _ known =>
        obtain rfl := typedLiteral_injective typed
        exact known

end Shape

/-! ### The lines of a row -/

/-- The lines of a row that is written are those of its statements, whatever a geocoder contributes.
Each is a statement of the grammar if and only if the datatype of its object, if it has one, is an
IRI. In a clean namespace that can only fail for a declared range that stands for no kind of value
and has a forbidden character; without such a range every line is a statement of the grammar. -/
theorem lines_of_rendered (setting : Setting) (t : Template) (header : Header)
    (cells : List Datum) (progress : Progress) (expansion : Expansion) (text : String)
    (done : (expandRow setting t header cells progress).1 = .ok expansion)
    (rendered : render expansion.statements = .ok text) :
    Text.linesOf '\n' text.toList = expansion.statements.map lineOf ∧
    (∀ s ∈ expansion.statements, Triple (lineOf s) ↔
      ∀ value datatype, s.object = typedLiteral value datatype → IsClean datatype) ∧
    (∀ s ∈ expansion.statements, ∀ value datatype, s.object = typedLiteral value datatype →
      setting.language.Datatype datatype) ∧
    (IsClean setting.language.vocabulary.base →
      (∀ property range, setting.language.schema.declared? property = some range →
        Range.ofName range = .other range → IsClean range) →
      ∀ line ∈ Text.linesOf '\n' text.toList, Triple line) := by
  obtain ⟨result, progress', yields, rfl⟩ := exists_scope_of_expandRow done
  have fits := (renderFrom_eq_ok_iff.mp rendered).1
  have shaped : ∀ s ∈ result.statements setting.language, IsShaped setting.language s :=
    fun s written => Scope.isShaped written
  have lines := linesOf_of_render rendered
  have triple : ∀ s ∈ result.statements setting.language, Triple (lineOf s) ↔
      ∀ value datatype, s.object = typedLiteral value datatype → IsClean datatype :=
    fun s written => (shaped s written).triple_iff (fits s written)
  have datatypes : ∀ s ∈ result.statements setting.language, ∀ value datatype,
      s.object = typedLiteral value datatype → setting.language.Datatype datatype :=
    fun s written _ _ typed => (shaped s written).datatype typed
  refine ⟨lines, triple, datatypes, fun base ranges line member => ?_⟩
  rw [lines] at member
  obtain ⟨s, written, rfl⟩ := List.mem_map.mp member
  refine (triple s written).mpr fun value datatype typed => ?_
  exact (datatypes s written value datatype typed).isClean base ranges

/-! ### Names with a declared range -/

def nameDocument : Document :=
  .map [("TEMPLATE", .sequence [.sequence [.text "Person",
    .map [("GENSYM", .text "person"), ("name", .text "name")]]])]

def nameTemplate : Template :=
  ⟨[⟨"Person", "person", [⟨.type, []⟩, ⟨.column "name", ["name"]⟩]⟩], [], [], {}⟩

theorem nameTemplate_isLoaded : nameTemplate.IsLoaded := ⟨true, nameDocument, rfl⟩

def nameScope : Scope :=
  .mk [("person", "0")] [] [.mk "0" "Person" [.type, .values ["name"] [.text "Ada"]]]

theorem lines_of_rendered_name :
    ∃ expansion text,
      (expandRow recordSetting nameTemplate ⟨["name"]⟩ [.text "Ada"] {}).1 = .ok expansion ∧
      render expansion.statements = .ok text ∧
        ∀ line ∈ Text.linesOf '\n' text.toList, Triple line := by
  have done : (expandRow recordSetting nameTemplate ⟨["name"]⟩ [.text "Ada"] {}).1 =
      .ok (nameScope.expansion recordSetting.language) := rfl
  have fits : ∀ s ∈ (nameScope.expansion recordSetting.language).statements, Fits s := by
    decide +kernel
  obtain ⟨text, rendered⟩ := exists_render_iff.mpr fits
  obtain ⟨_, _, _, grammatical⟩ :=
    lines_of_rendered recordSetting nameTemplate _ _ {} _ text done rendered
  exact ⟨_, text, done, rendered, grammatical (by decide +kernel) nofun⟩

/-- A setting that declares a range of two words for names. -/
def fullNameSetting : Setting :=
  { recordSetting with language := ⟨.ofList [("name", "full name")], .of defaultNamespace⟩ }

def fullNameStatement : Statement :=
  ⟨"<http://schema.localhost/0>", "<http://schema.localhost/name>",
    typedLiteral "Ada" "http://schema.localhost/full name"⟩

/-- In that setting the row is written, and the line of the name is no statement of the grammar. -/
theorem not_triple_fullName :
    nameTemplate.IsLoaded ∧
    (expandRow fullNameSetting nameTemplate ⟨["name"]⟩ [.text "Ada"] {}).1 =
      .ok (nameScope.expansion fullNameSetting.language) ∧
    ∃ text, render (nameScope.expansion fullNameSetting.language).statements = .ok text ∧
      ∃ line ∈ Text.linesOf '\n' text.toList, ¬Triple line := by
  have fits : ∀ s ∈ nameScope.statements fullNameSetting.language, Fits s := by
    decide +kernel
  have written : fullNameStatement ∈ nameScope.statements fullNameSetting.language := by
    decide +kernel
  obtain ⟨text, rendered⟩ := exists_render_iff.mpr fits
  refine ⟨nameTemplate_isLoaded, rfl, text, rendered, lineOf fullNameStatement, ?_, ?_⟩
  · rw [linesOf_of_render rendered]
    exact List.mem_map_of_mem written
  · intro triple
    have clean := ((Scope.isShaped written).triple_iff (fits _ written)).mp triple _ _ rfl
    exact absurd clean (by decide +kernel)

end RowTriples
