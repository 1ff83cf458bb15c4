import RowTriples.Proofs.Entity.Columns
import RowTriples.Proofs.Entity.Geocoding
import RowTriples.Proofs.Entity.InStep
import RowTriples.Proofs.Entity.Rendered
import RowTriples.Proofs.Entity.Steady
import RowTriples.Proofs.NTriples.Spelling
/-!
# Templates that spell names in another way

A template may write a plain class or predicate as a bare name or as its IRI in the namespace. Where
the namespace is an absolute IRI, resources, declared ranges and address fields are the same for
both spellings, so a template expands like any other that spells the same names, step by step. The
exception are the classes that are looked up: they are compared as they are spelled. So the
expansions are the same if the spelling makes no difference to what is looked up, and otherwise they
differ at most by the lookups and by what comes of them.
-/

namespace RowTriples

open Expanding

/-! ### Spellings of a template -/

/-- The rules have the same target, and the predicates of the second one spell those of the
first. -/
structure Rule.Respelled (vocabulary : Vocabulary) (rule rule' : Rule) : Prop where
  target : rule'.target = rule.target
  predicates : List.Forall₂ vocabulary.Spells rule.predicates rule'.predicates

/-- The entries have the same symbol, and the names in the second one spell those in the first. -/
structure Entry.Respelled (vocabulary : Vocabulary) (entry entry' : Entry) : Prop where
  symbol : entry'.symbol = entry.symbol
  type : vocabulary.Spells entry.type entry'.type
  rules : List.Forall₂ (Rule.Respelled vocabulary) entry.rules entry'.rules

namespace Template

mutual

/-- The templates are the same up to their entries, and these correspond to each other at every
level. -/
def Corresponds (rel : Options → Entry → Entry → Prop) : Template → Template → Prop
  | ⟨entries, subtemplates, bindings, options⟩, ⟨entries', subtemplates', bindings', options'⟩ =>
    List.Forall₂ (rel options) entries entries' ∧
      PartsCorrespond rel subtemplates subtemplates' ∧ bindings' = bindings ∧ options' = options

/-- The subtemplates have the same names and iterations and correspond to each other. -/
def PartsCorrespond (rel : Options → Entry → Entry → Prop) :
    List (String × Iteration × Template) → List (String × Iteration × Template) → Prop
  | [], [] => True
  | (name, iteration, inner) :: others, (name', iteration', inner') :: others' =>
    name' = name ∧ iteration' = iteration ∧ Corresponds rel inner inner' ∧
      PartsCorrespond rel others others'
  | _, _ => False

end

/-- The second template spells the names of the first one, in any mixture and at every level. -/
def Respelled (vocabulary : Vocabulary) : Template → Template → Prop :=
  Corresponds fun _ => Entry.Respelled vocabulary

/-- It looks up the same classes, too. -/
def LooksUpAlike (vocabulary : Vocabulary) : Template → Template → Prop :=
  Corresponds fun options entry entry' =>
    entry.Respelled vocabulary entry' ∧ options.looksUp entry'.type = options.looksUp entry.type

variable {rel : Options → Entry → Entry → Prop}

/-- The lists agree at the name: neither has a template under it, or both have one with the same
iteration, and these are related. -/
def AgreeAt (rel : Template → Template → Prop)
    (subtemplates subtemplates' : List (String × Iteration × Template)) (name : String) : Prop :=
  subtemplates.lookup name = none ∧ subtemplates'.lookup name = none ∨
    ∃ iteration inner inner', subtemplates.lookup name = some (iteration, inner) ∧
      subtemplates'.lookup name = some (iteration, inner') ∧ rel inner inner'

theorem PartsCorrespond.agreeAt {subtemplates subtemplates' : List (String × Iteration × Template)}
    (h : PartsCorrespond rel subtemplates subtemplates') (name : String) :
    AgreeAt (Corresponds rel) subtemplates subtemplates' name := by
  induction subtemplates generalizing subtemplates' with
  | nil =>
      cases subtemplates' with
      | nil => exact .inl ⟨rfl, rfl⟩
      | cons part others => cases h
  | cons part others ih =>
      obtain ⟨first, iteration, inner⟩ := part
      cases subtemplates' with
      | nil => cases h
      | cons part' others' =>
          obtain ⟨first', iteration', inner'⟩ := part'
          obtain ⟨rfl, rfl, here, rest⟩ := h
          rw [AgreeAt, List.lookup_cons, List.lookup_cons]
          split
          · exact .inr ⟨_, inner, inner', rfl, rfl, here⟩
          · exact ih rest

end Template

/-! ### Names in statements -/

namespace Language

variable {language : Language} {predicate predicate' : String}
variable {predicates predicates' : List String}
variable (absolute : isAbsolute language.vocabulary.base = true)
include absolute

theorem literal_eq (spells : language.vocabulary.Spells predicate predicate') (value : Datum) :
    language.literal predicate' value = language.literal predicate value := by
  rw [literal, literal, Typing.literal, Typing.literal, spells.localName_eq absolute]

variable (spells : List.Forall₂ language.vocabulary.Spells predicates predicates')
include spells

theorem relate_eq (subject object : String) :
    language.relate subject predicates' object = language.relate subject predicates object := by
  rw [relate, relate, eq_comm, ← List.forall₂_eq_eq_eq, List.forall₂_map_left_iff,
    List.forall₂_map_right_iff]
  exact spells.imp fun _ _ same => by rw [same.resource_eq absolute]

theorem assertValues_eq (subject : String) (values : List Datum) :
    language.assertValues subject predicates' values =
      language.assertValues subject predicates values := by
  refine flatMap_eq_of_forall₂ spells fun predicate predicate' same => ?_
  simp only [literal_eq absolute same, same.resource_eq absolute]

theorem skipValues_eq (subject : String) (values : List Datum) :
    language.skipValues subject predicates' values =
      language.skipValues subject predicates values := by
  refine flatMap_eq_of_forall₂ spells fun predicate predicate' same => ?_
  simp only [literal_eq absolute same]

end Language

/-! ### Scopes that say the same -/

/-- The scopes have the same identifiers and the same statements, and the same diagnostics among
those that are kept. -/
structure Scope.Agrees (language : Language) (keep : Diagnostic → Bool) (result result' : Scope) :
    Prop where
  identifiers : result'.identifiers = result.identifiers
  statements : result'.statements language = result.statements language
  diagnostics : (result'.diagnostics language).filter keep =
    (result.diagnostics language).filter keep

/-- The facts, of subjects of the respective classes, say the same of every subject. -/
structure Fact.Agrees (language : Language) (keep : Diagnostic → Bool) (type type' : String)
    (fact fact' : Fact) : Prop where
  statements : ∀ subject,
    fact'.statements language subject type' = fact.statements language subject type
  diagnostics : ∀ subject, (fact'.diagnostics language subject).filter keep =
    (fact.diagnostics language subject).filter keep

structure Entity.Agrees (language : Language) (keep : Diagnostic → Bool) (entity entity' : Entity) :
    Prop where
  statements : entity'.statements language = entity.statements language
  diagnostics : (entity'.diagnostics language).filter keep =
    (entity.diagnostics language).filter keep

structure LookupsAgree (language : Language) (keep : Diagnostic → Bool)
    (lookups lookups' : List Lookup) : Prop where
  candidates : lookups'.flatMap (Lookup.candidates language) =
    lookups.flatMap (Lookup.candidates language)
  diagnostics : (lookups'.filterMap (Lookup.diagnostic? language)).filter keep =
    (lookups.filterMap (Lookup.diagnostic? language)).filter keep

section Agreement

variable {language : Language} {keep : Diagnostic → Bool}

/-- Entities say what their facts say. -/
theorem Entity.Agrees.of_facts {id type type' : String} {facts facts' : List Fact}
    (same : List.Forall₂ (Fact.Agrees language keep type type') facts facts') :
    (Entity.mk id type facts).Agrees language keep (.mk id type' facts') := by
  constructor
  · rw [Entity.statements_eq, Entity.statements_eq]
    exact flatMap_eq_of_forall₂ same fun _ _ agrees => agrees.statements _
  · rw [Entity.diagnostics_eq, Entity.diagnostics_eq, List.filter_flatMap, List.filter_flatMap]
    exact flatMap_eq_of_forall₂ same fun _ _ agrees => agrees.diagnostics _

/-- Scopes say what their entities say and their lookups offer. -/
theorem Scope.Agrees.of_entities {ids : Identifiers} {lookups lookups' : List Lookup}
    {entities entities' : List Entity} (offers : LookupsAgree language keep lookups lookups')
    (same : List.Forall₂ (Entity.Agrees language keep) entities entities') :
    (Scope.mk ids lookups entities).Agrees language keep (.mk ids lookups' entities') := by
  refine ⟨rfl, ?_, ?_⟩
  · rw [Scope.statements, Scope.statements, statementsOfEntities_eq, statementsOfEntities_eq,
      offers.candidates]
    exact congrArg (fillSlots · _) (flatMap_eq_of_forall₂ same fun _ _ agrees => agrees.statements)
  · rw [Scope.diagnostics, Scope.diagnostics, diagnosticsOfEntities_eq, diagnosticsOfEntities_eq,
      List.filter_append, List.filter_append, offers.diagnostics, List.filter_flatMap,
      List.filter_flatMap]
    exact congrArg _ (flatMap_eq_of_forall₂ same fun _ _ agrees => agrees.diagnostics)

end Agreement

/-! ### Identifiers and addresses -/

section Entries

variable {vocabulary : Vocabulary} {entry entry' : Entry} {entries entries' : List Entry}
variable {setting : Setting} {options : Options} {row : Row} {element : Option Nat}
variable {ids inherited : Identifiers}

/-- Neither the class nor the predicates of an entry are part of its content. -/
theorem Entry.Respelled.alike (h : entry.Respelled vocabulary entry') (row : Row) :
    entry.Alike row row entry' := by
  refine ⟨h.symbol.symm, ?_⟩
  have rules : entry'.contentParts row = entry.contentParts row := by
    rw [contentParts, contentParts, h.symbol]
    exact congrArg _ (filterMap_eq_of_forall₂ h.rules fun _ _ respelled => by
      simp only [respelled.target])
  exact rules.symm

theorem declaredSymbols_congr (same : entries'.map (·.symbol) = entries.map (·.symbol)) :
    declaredSymbols entries' = declaredSymbols entries := by
  have fold (entries : List Entry) : declaredSymbols entries =
      (entries.map (·.symbol)).foldl (fun seen symbol =>
        if seen.contains symbol then seen else seen ++ [symbol]) [] := by
    rw [declaredSymbols, List.foldl_map]
  rw [fold, fold, same]

/-- The identifiers of a scope do not depend on the spelling. -/
theorem identify_respelled (h : List.Forall₂ (Entry.Respelled vocabulary) entries entries') :
    identify setting entries' options row element inherited =
      identify setting entries options row element inherited := by
  have alike : List.Forall₂ (Entry.Alike row row) entries entries' :=
    h.imp fun _ _ respelled => respelled.alike row
  have symbols := declaredSymbols_congr (Identifiers.symbols_eq alike).symm
  rw [identify, identify, symbols, Identifiers.byContent_congr (fun _ => rfl) alike]

/-- The fields of an address are found by the local names of predicates. -/
theorem addressFields_respelled (absolute : isAbsolute vocabulary.base = true)
    (h : entry.Respelled vocabulary entry') :
    addressFields vocabulary row entry' = addressFields vocabulary row entry := by
  have columns : List.Forall₂ (fun column column' : String × Rule =>
      column'.1 = column.1 ∧ column.2.Respelled vocabulary column'.2)
      entry.columnRules entry'.columnRules := by
    refine List.rel_filterMap ?_ h.rules
    intro rule rule' respelled
    simp only [respelled.target]
    cases rule.target with
    | column name => exact .some ⟨rfl, respelled⟩
    | _ => exact .none
  refine filterMap_eq_of_forall₂ columns ?_
  rintro ⟨name, rule⟩ ⟨_, rule'⟩ ⟨rfl, respelled⟩
  have spells : List.Forall₂ vocabulary.Spells rule.predicates rule'.predicates :=
    respelled.predicates
  cases first : rule.predicates with
  | nil =>
      rw [first, List.forall₂_nil_left_iff] at spells
      simp only [first, spells]
  | cons predicate others =>
      rw [first, List.forall₂_cons_left_iff] at spells
      obtain ⟨predicate', others', same, _, first'⟩ := spells
      simp only [first, first', List.head?_cons, Option.bind_eq_bind, Option.bind_some,
        same.localName_eq absolute]

/-- If the same classes are looked up, the same lookups are made. -/
theorem lookUpAll_respelled (absolute : isAbsolute setting.language.vocabulary.base = true)
    (h : List.Forall₂ (fun entry entry' =>
      entry.Respelled setting.language.vocabulary entry' ∧
        options.looksUp entry'.type = options.looksUp entry.type) entries entries') :
    lookUpAll setting options row ids entries' = lookUpAll setting options row ids entries := by
  induction h with
  | nil => rfl
  | cons related _ ih =>
      obtain ⟨respelled, same⟩ := related
      rw [lookUpAll, lookUpAll, respelled.symbol, addressQuery?, addressQuery?, same,
        addressFields_respelled absolute respelled, ih]

/-- Without a geocoder nothing is offered, whatever is looked up, and nothing is said but that there
is no geocoder. -/
theorem inStep_lookUpAll_of_absent (absent : setting.geocoder = none) (language : Language)
    (entries entries' : List Entry) :
    InStep (LookupsAgree language Diagnostic.isSkippedValue)
      (lookUpAll setting options row ids entries) (lookUpAll setting options row ids entries') := by
  have silent (entries : List Entry) : ∃ lookups,
      Always (lookUpAll setting options row ids entries) lookups ∧
        lookups.flatMap (Lookup.candidates language) = [] := by
    obtain ⟨lookups, _, looked, _⟩ :=
      (succeeds_lookUpAll : Succeeds (lookUpAll setting options row ids entries) _) {}
    refine ⟨lookups, (steady_lookUpAll absent).always looked, ?_⟩
    refine List.flatMap_eq_nil_iff.mpr fun lookup member => ?_
    rw [Lookup.candidates, unavailable_of_lookUpAll absent looked lookup member]
  obtain ⟨lookups, always, nothing⟩ := silent entries
  obtain ⟨lookups', always', nothing'⟩ := silent entries'
  intro progress
  refine ⟨progress, .inr ⟨lookups, lookups', always progress, always' progress, ?_, ?_⟩⟩
  · rw [nothing, nothing']
  · rw [filter_isSkippedValue_of_lookups, filter_isSkippedValue_of_lookups]

end Entries

/-! ### Expansions -/

section Expansions

variable {setting : Setting} {language : Language} {keep : Diagnostic → Bool}
variable {rel : Options → Entry → Entry → Prop}
variable {options : Options} {row : Row} {ids : Identifiers} {element : Option Nat}
variable {subtemplates subtemplates' : List (String × Iteration × Template)}
variable {entry entry' : Entry} {entries entries' : List Entry}

/-- The templates are expanded in step, and yield scopes that say the same. -/
def ExpandsInStep (setting : Setting) (keep : Diagnostic → Bool) (t t' : Template) : Prop :=
  ∀ row ids element, InStep (Scope.Agrees setting.language keep)
    (template setting t row ids element) (template setting t' row ids element)

/-- Repetitions that say the same are the same fact. -/
theorem Fact.Agrees.repeated (absolute : isAbsolute language.vocabulary.base = true)
    {predicates predicates' : List String}
    (spells : List.Forall₂ language.vocabulary.Spells predicates predicates')
    {occurrences occurrences' : List (String × Scope)} {type type' : String}
    (same : List.Forall₂ (fun occurrence occurrence' => occurrence'.1 = occurrence.1 ∧
      Scope.Agrees language keep occurrence.2 occurrence'.2) occurrences occurrences') :
    Fact.Agrees language keep type type' (.repeated predicates occurrences)
      (.repeated predicates' occurrences') := by
  constructor
  · intro subject
    rw [Fact.statements, Fact.statements, statementsOfOccurrences_eq, statementsOfOccurrences_eq]
    refine flatMap_eq_of_forall₂ same ?_
    intro occurrence occurrence' agrees
    rw [agrees.1, agrees.2.statements, Language.relate_eq absolute spells]
  · intro subject
    rw [Fact.diagnostics, Fact.diagnostics, diagnosticsOfOccurrences_eq,
      diagnosticsOfOccurrences_eq, List.filter_flatMap, List.filter_flatMap]
    exact flatMap_eq_of_forall₂ same fun _ _ agrees => agrees.2.diagnostics

section Entries

variable (absolute : isAbsolute setting.language.vocabulary.base = true)
variable (inside : ∀ name,
  Template.AgreeAt (ExpandsInStep setting keep) subtemplates subtemplates' name)
include absolute inside

theorem inStep_fact (spells : entry.Respelled setting.language.vocabulary entry')
    {rule rule' : Rule} (respelled : rule.Respelled setting.language.vocabulary rule') :
    InStep (Fact.Agrees setting.language keep entry.type entry'.type)
      (fact setting options row ids (subtemplatesOf setting subtemplates) entry rule)
      (fact setting options row ids (subtemplatesOf setting subtemplates') entry' rule') := by
  have predicates := respelled.predicates
  unfold fact
  rw [respelled.target, spells.symbol]
  cases rule.target with
  | type =>
      refine .pure ⟨fun subject => ?_, fun subject => rfl⟩
      rw [Fact.statements, Fact.statements, spells.type.resource_eq absolute]
  | symbol name =>
      refine .bind_same fun id _ _ _ => .pure ⟨fun subject => ?_, fun subject => rfl⟩
      rw [Fact.statements, Fact.statements, Language.relate_eq absolute predicates]
  | column name =>
      refine .pure ⟨fun subject => ?_, fun subject => ?_⟩
      · rw [Fact.statements, Fact.statements, Language.assertValues_eq absolute predicates]
      · rw [Fact.diagnostics, Fact.diagnostics, Language.skipValues_eq absolute predicates]
  | repeated name symbol =>
      simp only [lookup_subtemplatesOf]
      obtain ⟨missing, missing'⟩ | ⟨iteration, inner, inner', found, found', expands⟩ := inside name
      · rw [missing, missing']
        exact .throw
      · rw [found, found']
        have known (result result' : Scope) (agrees : result.Agrees setting.language keep result') :
            result'.identifiers = result.identifiers := agrees.identifiers
        exact (inStep_repeatFor known expands).bind fun _ _ same =>
          .pure (.repeated absolute predicates same)

theorem inStep_facts (spells : entry.Respelled setting.language.vocabulary entry')
    {rules rules' : List Rule}
    (respelled : List.Forall₂ (Rule.Respelled setting.language.vocabulary) rules rules') :
    InStep (List.Forall₂ (Fact.Agrees setting.language keep entry.type entry'.type))
      (facts setting options row ids (subtemplatesOf setting subtemplates) entry rules)
      (facts setting options row ids (subtemplatesOf setting subtemplates') entry' rules') := by
  induction respelled with
  | nil => exact .pure .nil
  | cons rule _ ih =>
      exact (inStep_fact absolute inside spells rule).bind fun _ _ first =>
        ih.bind fun _ _ others => .pure (.cons first others)

/-- The class of an entry would only be named if its own symbol were missing. -/
theorem inStep_entities
    (respelled : List.Forall₂ (Entry.Respelled setting.language.vocabulary) entries entries')
    (named : ∀ entry ∈ entries, entry.symbol ∈ Entries.names ids) :
    InStep (List.Forall₂ (Entity.Agrees setting.language keep))
      (entities setting options row ids (subtemplatesOf setting subtemplates) entries)
      (entities setting options row ids (subtemplatesOf setting subtemplates') entries') := by
  induction respelled with
  | nil => exact .pure .nil
  | @cons entry entry' _ _ spells _ ih =>
      rw [List.forall_mem_cons] at named
      obtain ⟨id, found⟩ := Option.isSome_iff_exists.mp (Entries.get?_isSome_iff.mpr named.1)
      unfold entities
      simp only [require, spells.symbol, found, pure_bind]
      refine (inStep_facts absolute inside spells spells.rules).bind fun _ _ same => ?_
      refine (ih named.2).bind fun _ _ others => ?_
      exact .pure (.cons (.of_facts same) others)

end Entries

/-- Templates with other spellings are expanded in step if their lookups offer the same. By
induction on the template: all that a scope passes on are its identifiers, which have no
spelling. -/
theorem expandsInStep (absolute : isAbsolute setting.language.vocabulary.base = true)
    (respells : ∀ options entry entry', rel options entry entry' →
      entry.Respelled setting.language.vocabulary entry')
    (looks : ∀ options row ids entries entries', List.Forall₂ (rel options) entries entries' →
      InStep (LookupsAgree setting.language keep) (lookUpAll setting options row ids entries)
        (lookUpAll setting options row ids entries'))
    {t t' : Template} (h : t.Corresponds rel t') : ExpandsInStep setting keep t t' := by
  induction t using Template.nested generalizing t' with
  | step t inner =>
      obtain ⟨entries, subtemplates, _, _⟩ := t
      obtain ⟨entries', subtemplates', bindings, options⟩ := t'
      obtain ⟨same, parts, rfl, rfl⟩ := h
      have respelled := same.imp (respells options)
      have inside (name : String) : Template.AgreeAt (ExpandsInStep setting keep) subtemplates
          subtemplates' name := by
        refine (parts.agreeAt name).imp_right ?_
        rintro ⟨iteration, part, part', found, found', nested⟩
        exact ⟨iteration, part, part', found, found', inner _ (mem_of_lookup found) nested⟩
      intro row inherited element
      simp only [template, scope]
      rw [identify_respelled respelled]
      refine .bind_same fun ids _ _ identified => ?_
      refine (looks options _ ids entries entries' same).bind fun _ _ offers => ?_
      have named : ∀ entry ∈ entries, entry.symbol ∈ Entries.names ids := by
        intro entry member
        rw [names_identify identified, mem_declaredSymbols]
        exact .inr (List.mem_map_of_mem member)
      refine (inStep_entities absolute inside respelled named).bind fun _ _ same => ?_
      exact .pure (.of_entities offers same)

/-- Spellings make no difference where they make none to what is looked up. -/
theorem expandsInStep_of_looksUpAlike
    (absolute : isAbsolute setting.language.vocabulary.base = true)
    {t t' : Template} (alike : t.LooksUpAlike setting.language.vocabulary t') :
    ExpandsInStep setting (fun _ => true) t t' := by
  refine expandsInStep absolute (fun _ _ _ related => related.1) ?_ alike
  intro options row ids entries entries' same
  rw [lookUpAll_respelled absolute same]
  exact (InStep.refl _).mono fun _ _ equal => by rw [equal]; exact ⟨rfl, rfl⟩

/-- Nor do they where there is no geocoder to ask, except for what is said about that. -/
theorem expandsInStep_of_absent (absolute : isAbsolute setting.language.vocabulary.base = true)
    (absent : setting.geocoder = none) {t t' : Template}
    (respelled : t.Respelled setting.language.vocabulary t') :
    ExpandsInStep setting Diagnostic.isSkippedValue t t' :=
  expandsInStep absolute (fun _ _ _ related => related)
    (fun _ _ _ _ _ _ => inStep_lookUpAll_of_absent absent _ _ _) respelled

end Expansions

/-! ### Rows -/

/-- The scope says the statements, and beyond them only what its lookups offer; and it skips the
values of the diagnostics. -/
structure Scope.Tells (language : Language) (told : List Statement) (skipped : List Diagnostic)
    (result : Scope) : Prop where
  statements : Extends (fun s => ∃ lookup ∈ result.allLookups, lookup.Offers language s) told
    (result.statements language)
  skipped : (result.diagnostics language).filter Diagnostic.isSkippedValue = skipped

section Rows

variable {setting : Setting} {t : Template} {row : Row} {progress last : Progress}

theorem Setting.asking_of_absent (absent : setting.geocoder = none) :
    setting.asking none = setting := by
  rw [← absent]
  rfl

/-- With its geocoder and without it, a template ends with the same error, or it tells the same. -/
theorem exists_told (setting : Setting) (t : Template) (row : Row) (progress : Progress) :
    ∃ last last' : Progress, last.minted = last'.minted ∧
      ((∃ error, Fails (template setting t row [] none) progress error last ∧
          Fails (template (setting.asking none) t row [] none) progress error last') ∨
        ∃ result plain, Yields (template setting t row [] none) progress result last ∧
          Yields (template (setting.asking none) t row [] none) progress plain last' ∧
          result.Tells setting.language (plain.statements setting.language)
            ((plain.diagnostics setting.language).filter Diagnostic.isSkippedValue)) := by
  cases known : setting.geocoder with
  | none =>
      rw [Setting.asking_of_absent known]
      obtain ⟨last, fails | ⟨result, _, yields, yields', rfl⟩⟩ :=
        InStep.refl (template setting t row [] none) progress
      · exact ⟨last, last, rfl, .inl fails⟩
      · exact ⟨last, last, rfl, .inr ⟨result, result, yields, yields', .refl _, rfl⟩⟩
  | some geocoder =>
      have same : setting.asking (some geocoder) = setting := by rw [← known]; rfl
      obtain ⟨last, last', minted, fails | ⟨result, _, plain, yields, yields', _, compared⟩⟩ :=
        expandsInLockstep setting geocoder setting.language t row [] none progress progress rfl
      · rw [same] at fails
        exact ⟨last, last', minted, .inl fails⟩
      · rw [same] at yields
        obtain ⟨_, rfl, output⟩ := compared
        refine ⟨last, last', minted, .inr ⟨result, plain, yields, yields', ?_, output.skipped⟩⟩
        refine output.extended.mono ?_
        rintro s ⟨lookup, member, offered⟩
        exact ⟨lookup, member, Lookup.mem_candidates_iff.mp offered⟩

theorem exists_fails_of_plain {error : ExpansionError}
    (fails : Fails (template (setting.asking none) t row [] none) progress error last) :
    ∃ last', last'.minted = last.minted ∧
      Fails (template setting t row [] none) progress error last' := by
  obtain ⟨last', _, minted, ⟨_, here, plain⟩ | ⟨_, _, _, plain, _⟩⟩ :=
    exists_told setting t row progress
  · cases fails.symm.trans plain
    exact ⟨last', minted, here⟩
  · cases fails.symm.trans plain

theorem exists_told_of_plain {plain : Scope}
    (yields : Yields (template (setting.asking none) t row [] none) progress plain last) :
    ∃ result last', last'.minted = last.minted ∧
      Yields (template setting t row [] none) progress result last' ∧
      result.Tells setting.language (plain.statements setting.language)
        ((plain.diagnostics setting.language).filter Diagnostic.isSkippedValue) := by
  obtain ⟨last', _, minted, ⟨_, _, fails⟩ | ⟨result, _, here, plain, tells⟩⟩ :=
    exists_told setting t row progress
  · cases yields.symm.trans fails
  · cases yields.symm.trans plain
    exact ⟨result, last', minted, here, tells⟩

/-- Bare names and their IRIs are interchangeable but for the classes that are looked up. Where the
namespace is an absolute IRI, a template that spells names in another way expands to the same, to
the last query, if every class is looked up under both spellings or under neither. If not, the
rows still take equally many random identifiers and fail with the same error or succeed both times;
they then say the same statements, each with some that its own matches offer, and skip the same
values. Without a geocoder there are no matches. -/
theorem spellings_expand_alike (setting : Setting) (t t' : Template) (header : Header)
    (cells : List Datum) (progress : Progress)
    (absolute : isAbsolute setting.language.vocabulary.base = true)
    (respelled : t.Respelled setting.language.vocabulary t') :
    (t.LooksUpAlike setting.language.vocabulary t' →
      expandRow setting t' header cells progress = expandRow setting t header cells progress) ∧
    (expandRow setting t' header cells progress).2.minted =
      (expandRow setting t header cells progress).2.minted ∧
    ((∃ error, (expandRow setting t header cells progress).1 = .error error ∧
        (expandRow setting t' header cells progress).1 = .error error) ∨
      ∃ (result result' : Scope) (told : List Statement) (skipped : List Diagnostic),
        ((Expanding.row setting t header cells).run progress).1 = .ok result ∧
        ((Expanding.row setting t' header cells).run progress).1 = .ok result' ∧
        (expandRow setting t header cells progress).1 = .ok (result.expansion setting.language) ∧
        (expandRow setting t' header cells progress).1 = .ok (result'.expansion setting.language) ∧
        result.Tells setting.language told skipped ∧
        result'.Tells setting.language told skipped ∧
        (setting.geocoder = none →
          result'.statements setting.language = result.statements setting.language)) := by
  refine ⟨?_, ?_⟩
  · intro alike
    obtain ⟨last, ⟨error, fails, fails'⟩ | ⟨result, result', yields, yields', agrees⟩⟩ :=
      expandsInStep_of_looksUpAlike absolute alike { header, cells } [] none progress
    · rw [expandRow_of_fails fails, expandRow_of_fails fails']
    · have diagnostics := agrees.diagnostics
      rw [List.filter_true, List.filter_true] at diagnostics
      rw [expandRow_of_yields yields, expandRow_of_yields yields', Scope.expansion,
        Scope.expansion, agrees.statements, diagnostics]
  · have steps : ExpandsInStep (setting.asking none) Diagnostic.isSkippedValue t t' :=
      @expandsInStep_of_absent (setting.asking none) absolute rfl t t' respelled
    obtain ⟨last, ⟨error, plain, plain'⟩ | ⟨told, told', plain, plain', agrees⟩⟩ :=
      steps { header, cells } [] none progress
    · obtain ⟨_, minted, fails⟩ := exists_fails_of_plain plain
      obtain ⟨_, minted', fails'⟩ := exists_fails_of_plain plain'
      rw [expandRow_of_fails fails, expandRow_of_fails fails']
      exact ⟨minted'.trans minted.symm, .inl ⟨error, rfl, rfl⟩⟩
    · have same : told.Agrees setting.language Diagnostic.isSkippedValue told' := agrees
      obtain ⟨result, _, minted, yields, tells⟩ := exists_told_of_plain plain
      obtain ⟨result', _, minted', yields', tells'⟩ := exists_told_of_plain plain'
      rw [same.statements, same.diagnostics] at tells'
      rw [expandRow_of_yields yields, expandRow_of_yields yields']
      refine ⟨minted'.trans minted.symm, .inr ⟨result, result', _, _, congrArg Prod.fst yields,
        congrArg Prod.fst yields', rfl, rfl, tells, tells', ?_⟩⟩
      intro absent
      rw [Setting.asking_of_absent absent] at plain plain'
      cases plain.symm.trans yields
      cases plain'.symm.trans yields'
      exact same.statements

end Rows

/-! ### A class by its IRI -/

def siteTemplate (type predicate : String) : Template :=
  ⟨[⟨type, "place", [⟨.type, []⟩, ⟨.column "city", [predicate]⟩]⟩], [], [], { lookup := true }⟩

def siteDocument (type predicate : String) : Document :=
  .map [("TEMPLATE", .sequence [.sequence [.text type, .map [
      ("GENSYM", .text "place"), ("city", .sequence [.text predicate])]]]),
    ("OPTIONS", .map [("GEOLOOKUP", .bool true)])]

/-- A geocoder that finds a place in Oregon, whatever the query. -/
def siteSetting : Setting :=
  let found : Feature :=
    { properties := { placeRank := 30, address := [("state", .string "Oregon")] } }
  recordSetting.asking (some fun _ _ => .ok ⟨[found]⟩)

abbrev siteVocabulary : Vocabulary :=
  siteSetting.language.vocabulary

theorem spellings_expand_alike_site :
    expandRow siteSetting (siteTemplate "AddressLocation" (siteVocabulary.expand "locationCity"))
        ⟨["city"]⟩ [.text "Springfield"] {} =
      expandRow siteSetting (siteTemplate "AddressLocation" "locationCity") ⟨["city"]⟩
        [.text "Springfield"] {} := by
  have absolute : isAbsolute siteVocabulary.base = true := by decide +kernel
  have city : siteVocabulary.Spells "locationCity" (siteVocabulary.expand "locationCity") :=
    .inr ⟨by decide +kernel, rfl⟩
  have entry : Entry.Respelled siteVocabulary
      ⟨"AddressLocation", "place", [⟨.type, []⟩, ⟨.column "city", ["locationCity"]⟩]⟩
      ⟨"AddressLocation", "place",
        [⟨.type, []⟩, ⟨.column "city", [siteVocabulary.expand "locationCity"]⟩]⟩ :=
    ⟨rfl, .inl rfl, .cons ⟨rfl, .nil⟩ (.cons ⟨rfl, .cons city .nil⟩ .nil)⟩
  have respelled :=
    spellings_expand_alike siteSetting (siteTemplate "AddressLocation" "locationCity")
      (siteTemplate "AddressLocation" (siteVocabulary.expand "locationCity")) ⟨["city"]⟩
      [.text "Springfield"] {} absolute ⟨.cons entry .nil, trivial, rfl, rfl⟩
  exact respelled.1 ⟨.cons ⟨entry, rfl⟩ .nil, trivial, rfl, rfl⟩

/-- A class is looked up by its name, but not by its IRI. -/
theorem spelling_changes_lookups_site :
    let bare := siteTemplate "AddressLocation" "locationCity"
    let absolute := siteTemplate (siteVocabulary.expand "AddressLocation") "locationCity"
    isAbsolute siteVocabulary.base = true ∧ IsPlainName "AddressLocation" ∧
    bare.IsLoaded ∧ absolute.IsLoaded ∧ bare.Respelled siteVocabulary absolute ∧
    ∃ expansion expansion' asked asked',
      expandRow siteSetting bare ⟨["city"]⟩ [.text "Springfield"] {} = (.ok expansion, ⟨1, asked⟩) ∧
      expandRow siteSetting absolute ⟨["city"]⟩ [.text "Springfield"] {} =
        (.ok expansion', ⟨1, asked'⟩) ∧
      expansion'.statements ≠ expansion.statements ∧ asked' ≠ asked := by
  have plain : IsPlainName "AddressLocation" := by decide +kernel
  have rules : List.Forall₂ (Rule.Respelled siteVocabulary)
      [⟨.type, []⟩, ⟨.column "city", ["locationCity"]⟩]
      [⟨.type, []⟩, ⟨.column "city", ["locationCity"]⟩] :=
    .cons ⟨rfl, .nil⟩ (.cons ⟨rfl, .cons (.inl rfl) .nil⟩ .nil)
  refine ⟨by decide +kernel, plain, ⟨true, siteDocument _ _, rfl⟩, ⟨true, siteDocument _ _, rfl⟩,
    ⟨.cons ⟨rfl, .inr ⟨plain, rfl⟩, rules⟩ .nil, trivial, rfl, rfl⟩, _, _, _, _, rfl, rfl, ?_, ?_⟩
  · decide +kernel
  · decide +kernel

end RowTriples
