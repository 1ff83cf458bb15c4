import RowTriples.Proofs.Entity.Origins
import RowTriples.Proofs.NTriples.Literals
/-!
# Rows that can be written

The statements of a row are written together or not at all. Names of a template are known before any
row is read, and literals escape what a cell brings along; so whether a row can be written is
decided by its identifiers. A bare identifier is percent-encoded. An identifier that a binding
supplies may also be an IRI of its own, which stands as it is: if it has a forbidden character, the
row is lost.
-/

namespace RowTriples

open Expanding NTriples

/-! ### Without a geocoder -/

section Lookups

variable {setting : Setting} {options : Options} {row : Row} {ids : Identifiers}
variable {progress progress' : Progress}

theorem Expanding.unavailable_of_lookUp (absent : setting.geocoder = none) {query : AddressQuery}
    {outcome : LookupOutcome} (yields : Yields (lookUp setting query) progress outcome progress') :
    outcome = .unavailable := by
  simp only [lookUp, absent] at yields
  exact (yields_pure.mp yields).1.symm

/-- Without a geocoder no lookup is answered. -/
theorem Expanding.unavailable_of_lookUpAll (absent : setting.geocoder = none)
    {entries : List Entry} {lookups : List Lookup}
    (yields : Yields (lookUpAll setting options row ids entries) progress lookups progress') :
    ∀ lookup ∈ lookups, lookup.outcome = .unavailable := by
  intro lookup member
  obtain ⟨_, _, _, _, _, _, asked⟩ := yields_lookUpAll yields member
  exact unavailable_of_lookUp absent asked

theorem Expanding.Expands.lookups {t : Template} {inherited : Identifiers} {element : Option Nat}
    {result : Scope} (h : Expands setting t row inherited element result) :
    ∃ progress progress', Yields (lookUpAll setting t.options (row.derive t.bindings)
      result.identifiers t.entries) progress result.lookups progress' := by
  obtain ⟨progress, progress', yields⟩ := h
  obtain ⟨_, _, _, looked, _⟩ := yields_template yields
  exact ⟨_, _, looked⟩

/-- Without a geocoder a scope says only what its facts say. -/
theorem Expanding.Expands.not_offered (absent : setting.geocoder = none) {t : Template}
    {inherited : Identifiers} {element : Option Nat} {result : Scope} {lookup : Lookup}
    (h : Expands setting t row inherited element result) (member : lookup ∈ result.lookups)
    (language : Language) : lookup.candidates language = [] := by
  obtain ⟨_, _, looked⟩ := h.lookups
  have unanswered := unavailable_of_lookUpAll absent looked lookup member
  rw [Lookup.candidates, unanswered]

end Lookups

/-! ### Names -/

/-- The classes and predicates of the template are bare names or clean IRIs. -/
structure Template.HasCleanNames (t : Template) : Prop where
  types : ∀ entry ∈ t.entries, IsCleanName entry.type
  predicates : ∀ entry ∈ t.entries, ∀ rule ∈ entry.rules, ∀ predicate ∈ rule.predicates,
    IsCleanName predicate

theorem isClean_hyphenated (bytes : List UInt8) : IsClean (Digest.hyphenated bytes) := by
  have digit : ∀ n < 16, isForbiddenInIri (Nat.digitChar n) = false := by decide
  have digits : ∀ c ∈ Digest.hex bytes, isForbiddenInIri c = false := by
    intro c member
    obtain ⟨b, _, member⟩ := List.mem_flatMap.mp member
    have byte := b.toNat_lt
    rcases List.mem_cons.mp member with rfl | member
    · exact digit _ (by omega)
    · obtain rfl := List.mem_singleton.mp member
      exact digit _ (by omega)
  have part : ∀ start size, ∀ c ∈ ((Digest.hex bytes).drop start).take size,
      isForbiddenInIri c = false :=
    fun start size c member => digits c (List.mem_of_mem_drop (List.mem_of_mem_take member))
  have hyphen : isForbiddenInIri '-' = false := by decide
  simp only [IsClean, Digest.hyphenated, String.toList_ofList, List.forall_mem_append,
    List.forall_mem_cons]
  exact ⟨⟨⟨⟨part 0 8, hyphen, part 8 4⟩, hyphen, part 12 4⟩, hyphen, part 16 4⟩, hyphen, part 20 12⟩

/-- Digests are clean, so only a random identifier or a supplied one might not be. -/
theorem Generates.isCleanName {fresh : Nat → String} {id : String} (h : Generates fresh id)
    (random : ∀ number, IsCleanName (fresh number)) : IsCleanName id := by
  cases h with
  | digest content => exact fun _ => isClean_hyphenated _
  | random number => exact random number

section Facts

variable {setting : Setting} {t : Template} {row : Row} {inherited : Identifiers}
variable {element : Option Nat} {result : Scope} {entity : Entity} {fact : Fact}

theorem Expanding.Expands.isCleanName_type
    (h : Expands setting t row inherited element result) (names : t.HasCleanNames)
    (entityMember : entity ∈ result.entities) : IsCleanName entity.type := by
  obtain ⟨entry, entryMember, instantiates⟩ := exists_of_mem_right h.run.2 entityMember
  rw [instantiates.type]
  exact names.types entry entryMember

/-- The predicates of a link and of a column are those of the rule. -/
theorem Expanding.Expands.isCleanName_predicates
    (h : Expands setting t row inherited element result) (names : t.HasCleanNames)
    (entityMember : entity ∈ result.entities) (factMember : fact ∈ entity.facts)
    {predicates : List String}
    (shape : (∃ id, fact.LinksTo predicates id) ∨ ∃ values, fact = .values predicates values) :
    ∀ predicate ∈ predicates, IsCleanName predicate := by
  obtain ⟨entry, entryMember, instantiates⟩ := exists_of_mem_right h.run.2 entityMember
  obtain ⟨rule, ruleMember, becomes⟩ := exists_of_mem_right instantiates.facts factMember
  have same : rule.predicates = predicates := by
    rcases shape with ⟨id, links⟩ | ⟨values, rfl⟩
    · cases links with
      | link => cases becomes; rfl
      | repeated member => cases becomes; rfl
    · cases becomes
      rfl
  rw [← same]
  exact names.predicates entry entryMember rule ruleMember

/-- What a scope says fits if the identifiers that it mentions are clean. -/
theorem fits_of_says {language : Language} {s : Statement}
    (h : Expands setting t row inherited element result) (names : t.HasCleanNames)
    (base : IsClean language.vocabulary.base)
    (ranges : ∀ property range, language.schema.declared? property = some range →
      IsUnbroken range)
    (mentioned : ∀ id, result.Mentions id → IsCleanName id)
    (entityMember : entity ∈ result.entities) (factMember : fact ∈ entity.facts)
    (told : fact.Says language (language.vocabulary.resource entity.id) entity.type s) :
    Fits s := by
  have subject : fault? .subject (language.vocabulary.resource entity.id) = none :=
    (fault?_resource base).mpr (mentioned _ (.entity entityMember))
  cases told with
  | type =>
      refine ⟨subject, ?_, ?_⟩
      · exact fault?_iriToken.mpr isIri_iriToken_rdfType
      · exact (fault?_resource base).mpr (h.isCleanName_type names entityMember)
  | @link _ predicates predicate id links member =>
      have clean := h.isCleanName_predicates names entityMember factMember (.inl ⟨id, links⟩)
      have linked := mentioned id (.link entityMember factMember links (List.ne_nil_of_mem member))
      refine ⟨subject, ?_, ?_⟩
      · exact (fault?_resource base).mpr (clean predicate member)
      · exact (fault?_resource base).mpr linked
  | @value predicates values predicate object value member _ literal =>
      have clean := h.isCleanName_predicates names entityMember factMember (.inr ⟨values, rfl⟩)
      have isLiteral : IsLiteral language.Datatype object := Typing.isLiteral_literal literal
      refine ⟨subject, ?_, ?_⟩
      · exact (fault?_resource base).mpr (clean predicate member)
      · exact isLiteral.fault?_eq_none fun iri datatype => datatype.isUnbroken base ranges

end Facts

/-! ### Writing a row -/

section Row

variable {setting : Setting} {t : Template} {row : Row} {result : Scope} {language : Language}

/-- A row can be written if the identifiers that it uses are clean. -/
theorem fits_of_uses (expanded : Expands setting t row [] none result)
    (absent : setting.geocoder = none) (names : t.Everywhere Template.HasCleanNames)
    (base : IsClean language.vocabulary.base)
    (ranges : ∀ property range, language.schema.declared? property = some range →
      IsUnbroken range)
    (used : ∀ id, result.Uses id → IsCleanName id) :
    ∀ s ∈ result.statements language, Fits s := by
  intro s written
  obtain ⟨chain, inner, reached, told⟩ := result.exists_says written
  obtain ⟨next, seed, leads, holds⟩ := (Site.Matches.root expanded).exists_site reached
  have followed : t.follow? chain = some next.template := Site.template_follow? leads
  cases told with
  | fact entityMember factMember told =>
      exact fits_of_says holds.expands (names.of_follow? followed).here base ranges
        (fun id mentioned => used id ⟨chain, inner, reached, mentioned⟩) entityMember
          factMember told
  | lookup member offered =>
      rw [holds.expands.not_offered absent member language] at offered
      cases offered

/-- A row that can be written uses clean identifiers. -/
theorem isCleanName_of_fits (expanded : Expands setting t row [] none result)
    (complete : t.Everywhere Template.IsComplete) (base : IsClean language.vocabulary.base)
    (fits : ∀ s ∈ result.statements language, Fits s) {id : String} (used : result.Uses id) :
    IsCleanName id := by
  obtain ⟨chain, inner, reached, mentioned⟩ := used
  cases mentioned with
  | @entity entity member =>
      obtain ⟨typing, isTyping, subject⟩ :=
        exists_isTyping expanded complete language ⟨chain, inner, entity, reached, member, rfl⟩
      have fits := (fits typing isTyping.mem).subject
      rw [subject] at fits
      exact (fault?_resource base).mp fits
  | @link entity fact predicates _ entityMember factMember links related =>
      obtain ⟨predicate, member⟩ := List.exists_mem_of_ne_nil predicates related
      have isLink : result.IsLink language ⟨language.vocabulary.resource entity.id,
          language.vocabulary.resource predicate, language.vocabulary.resource id⟩ :=
        ⟨chain, inner, entity, fact, predicates, id, reached, entityMember, factMember, links,
          List.mem_map_of_mem member⟩
      exact (fault?_resource base).mp (fits _ isLink.mem).object

end Row

/-- A row without lookups, whose template, namespace and ranges are fit to be written, is written if
and only if the identifiers that it uses are. Those that are not are supplied by bindings. So a row
is lost only by a value that a binding derives for a symbol and that is an IRI with a forbidden
character. -/
theorem rendered_iff_clean (setting : Setting) (t : Template) (header : Header)
    (cells : List Datum) (progress : Progress) (expansion : Expansion) (loaded : t.IsLoaded)
    (names : t.Everywhere Template.HasCleanNames)
    (base : IsClean setting.language.vocabulary.base)
    (ranges : ∀ property range, setting.language.schema.declared? property = some range →
      IsUnbroken range)
    (random : ∀ number, IsCleanName (setting.fresh number)) (absent : setting.geocoder = none)
    (done : (expandRow setting t header cells progress).1 = .ok expansion) :
    ∃ result progress',
      (Expanding.row setting t header cells).run progress = (.ok result, progress') ∧
      expansion = result.expansion setting.language ∧
      ((∃ text, render expansion.statements = .ok text) ↔ ∀ id, result.Uses id → IsCleanName id) ∧
      (∀ id, result.Uses id → ¬IsCleanName id → IsSupplied t { header, cells } id) ∧
      ((∀ id, IsSupplied t { header, cells } id → IsCleanName id) →
        ∃ text, render expansion.statements = .ok text) := by
  obtain ⟨result, progress', yields, rfl⟩ := exists_scope_of_expandRow done
  have expanded : Expands setting t { header, cells } [] none result :=
    ⟨progress, progress', yields⟩
  have written : (∃ text, render (result.statements setting.language) = .ok text) ↔
      ∀ id, result.Uses id → IsCleanName id := by
    rw [exists_render_iff]
    constructor
    · intro fits id used
      exact isCleanName_of_fits expanded loaded.complete base fits used
    · exact fits_of_uses expanded absent names base ranges
  have supplied : ∀ id, result.Uses id → ¬IsCleanName id → IsSupplied t { header, cells } id := by
    intro id used unclean
    rcases used.origin expanded with supplied | generated
    · exact supplied
    · exact absurd (generated.isCleanName random) unclean
  refine ⟨result, progress', yields, rfl, written, supplied, fun clean => written.mpr ?_⟩
  intro id used
  by_contra unclean
  exact unclean (clean id (supplied id used unclean))

/-! ### Pages as identifiers -/

def pageDocument : Document :=
  .map [("TEMPLATE", .sequence [.sequence [.text "Person", .map [("GENSYM", .text "person")]]]),
    ("BIND", .map [("person", .map [("FUNCTION", .text "CombineColumns"),
      ("DATA", .map [("Columns", .sequence [.text "page"]), ("Delimiter", .text "")])])])]

def pageTemplate : Template :=
  ⟨[⟨"Person", "person", [⟨.type, []⟩]⟩], [], [⟨"person", .join ["page"] ""⟩], {}⟩

theorem pageTemplate_isLoaded : pageTemplate.IsLoaded := ⟨true, pageDocument, rfl⟩

theorem pageTemplate_hasCleanNames : pageTemplate.Everywhere Template.HasCleanNames := by
  refine .intro ⟨?_, ?_⟩ nofun
  · decide +kernel
  · decide +kernel

def pageRow (page : String) : Row :=
  ⟨⟨["page"]⟩, [.text page], []⟩

/-- Nothing but the page itself is supplied. -/
theorem eq_of_isSupplied_page {page id : String}
    (supplied : IsSupplied pageTemplate (pageRow page) id) : id = page := by
  obtain ⟨chain, site, symbol, value, leads, ⟨origin, found, _⟩, rfl⟩ := supplied
  cases chain with
  | nil =>
      cases leads
      have derived : (Site.root pageTemplate (pageRow page)).derived =
          (pageRow page).bind "person" (.text page) .binding := by
        have joined : (Binding.join ["page"] "").evaluate (pageRow page) = .text page := by
          change Datum.text (String.ofList page.toList) = .text page
          rw [String.ofList_toList]
        simp [Site.derived, Site.root, pageTemplate, Row.derive, joined]
      rw [derived, Row.origin?_bind] at origin
      rw [derived, Row.get?_bind] at found
      split at origin
      next same =>
        rw [if_pos same] at found
        cases found
        rfl
      next => cases origin
  | cons branch chain =>
      obtain ⟨_, first, _⟩ := Option.bind_eq_some_iff.mp leads
      obtain ⟨_, _, _, _, part, _, _⟩ := Site.branch?_eq_some_iff.mp first
      obtain ⟨_, _, _, _, _, missing⟩ := Template.branch?_eq_some_iff.mp part
      cases missing

theorem isForbiddenInIri_of_isDigit {c : Char} (digit : c.isDigit = true) :
    isForbiddenInIri c = false := by
  have small : c.toNat ≤ 57 := by
    simp only [Char.isDigit, Bool.and_eq_true, decide_eq_true_eq] at digit
    exact UInt32.le_iff_toNat_le.mp digit.2
  have each : ∀ n ≤ 57, (Char.ofNat n).isDigit = true →
      isForbiddenInIri (Char.ofNat n) = false := by
    decide
  have here := each c.toNat small
  rw [Char.ofNat_toNat] at here
  exact here digit

/-- The decimal digits of numbers serve as random identifiers in the examples. -/
theorem isCleanName_toString (number : Nat) : IsCleanName (toString number) := by
  intro _ c member
  apply isForbiddenInIri_of_isDigit
  have member : c ∈ Nat.toDigits 10 number := by simpa using member
  exact Nat.isDigit_of_mem_toDigits (by decide) (by decide) member

theorem rendered_iff_clean_page :
    pageTemplate.IsLoaded ∧ ∃ expansion text,
      (expandRow recordSetting pageTemplate (pageRow "http://a.b").header
        (pageRow "http://a.b").cells {}).1 = .ok expansion ∧
      render expansion.statements = .ok text := by
  have done : ∃ expansion, (expandRow recordSetting pageTemplate (pageRow "http://a.b").header
      (pageRow "http://a.b").cells {}).1 = .ok expansion := ⟨_, rfl⟩
  obtain ⟨expansion, done⟩ := done
  have base : IsClean recordSetting.language.vocabulary.base := by decide +kernel
  obtain ⟨_, _, _, _, _, _, renders⟩ := rendered_iff_clean recordSetting pageTemplate _ _ {}
    expansion pageTemplate_isLoaded pageTemplate_hasCleanNames base nofun isCleanName_toString
      rfl done
  obtain ⟨text, rendered⟩ := renders fun id supplied => by
    rw [eq_of_isSupplied_page supplied]
    decide +kernel
  exact ⟨pageTemplate_isLoaded, expansion, text, done, rendered⟩

/-- The scope of the row of a person with a page whose address has a blank. -/
def blankPageScope : Scope :=
  .mk [("person", "http://a b")] [] [.mk "http://a b" "Person" [.type]]

/-- Everything about the row is fit to be written except for the page, and it is not written. -/
theorem not_rendered_blankPage :
    pageTemplate.IsLoaded ∧ pageTemplate.Everywhere Template.HasCleanNames ∧
    IsClean recordSetting.language.vocabulary.base ∧
    (∀ property range, recordSetting.language.schema.declared? property = some range →
      IsUnbroken range) ∧
    recordSetting.geocoder = none ∧
    (expandRow recordSetting pageTemplate (pageRow "http://a b").header
      (pageRow "http://a b").cells {}).1 = .ok (blankPageScope.expansion recordSetting.language) ∧
    ¬∃ text, render (blankPageScope.expansion recordSetting.language).statements = .ok text := by
  have base : IsClean recordSetting.language.vocabulary.base := by decide +kernel
  refine ⟨pageTemplate_isLoaded, pageTemplate_hasCleanNames, base, nofun, rfl, rfl, ?_⟩
  rw [exists_render_iff]
  intro fits
  have typed := (fits _ List.mem_cons_self).subject
  have clean : IsCleanName "http://a b" := (fault?_resource base).mp typed
  exact absurd clean (by decide +kernel)

end RowTriples
