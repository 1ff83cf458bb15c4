import RowTriples.Proofs.Entity.Columns
import RowTriples.Proofs.Entity.Rendered
import RowTriples.Proofs.Entity.Replacement
import RowTriples.Proofs.Entity.Sites
/-!
# Repetitions do not touch each other

Where content decides and there is no geocoder, what a rule contributes by repeating a subtemplate
is put together from one block for every element. A block is computed from the columns of the scope,
its identifiers and the element, and from nothing that other elements leave behind. Nor does the
rule leave anything behind itself: the template without the rule expands to the same scope without
the repetitions.
-/

namespace RowTriples

open Expanding

/-! ### Rules and what they contribute -/

/-- A rule of a template that repeats a subtemplate, with all that stands before and after it. -/
structure Template.Repetition (t : Template) where
  before : List Entry
  type : String
  symbol : String
  front : List Rule
  /-- The name of the subtemplate. -/
  name : String
  /-- The symbol that is linked to. -/
  linked : String
  predicates : List String
  back : List Rule
  after : List Entry
  entries : t.entries = before ++
    ⟨type, symbol, front ++ ⟨.repeated name linked, predicates⟩ :: back⟩ :: after

def Template.Repetition.deleted {t : Template} (rule : t.Repetition) : Template :=
  { t with entries :=
    rule.before ++ ⟨rule.type, rule.symbol, rule.front ++ rule.back⟩ :: rule.after }

namespace Scope

/-- The repetitions that a rule has come to in a scope, with all that stands before and after. -/
structure Repetition (scope : Scope) where
  before : List Entity
  id : String
  type : String
  front : List Fact
  predicates : List String
  occurrences : List (String × Scope)
  back : List Fact
  after : List Entity
  entities : scope.entities = before ++
    .mk id type (front ++ .repeated predicates occurrences :: back) :: after

namespace Repetition

variable {scope : Scope} (fact : scope.Repetition) (language : Language)

def deleted : Scope :=
  .mk scope.identifiers scope.lookups
    (fact.before ++ .mk fact.id fact.type (fact.front ++ fact.back) :: fact.after)

/-- The repetitions stand in the scope where the rule stands in the template. -/
structure Of {t : Template} (rule : t.Repetition) : Prop where
  before : fact.before.length = rule.before.length
  front : fact.front.length = rule.front.length
  id : Entries.get? rule.symbol scope.identifiers = some fact.id
  type : fact.type = rule.type
  predicates : fact.predicates = rule.predicates

/-- The statements of the repetitions, with the links to them. -/
def statements : List Statement :=
  statementsOfOccurrences language (language.vocabulary.resource fact.id) fact.predicates
    fact.occurrences

def diagnostics : List Diagnostic :=
  diagnosticsOfOccurrences language fact.occurrences

end Repetition

end Scope

namespace Scope.Repetition

variable {scope : Scope} (fact : scope.Repetition) {language : Language}

/-- Where lookups offer nothing, the scope without the repetitions lacks their statements and no
others, and it keeps the order. -/
theorem exists_statements_eq
    (silent : ∀ lookup ∈ scope.lookups, lookup.candidates language = []) :
    ∃ before after, scope.statements language = before ++ fact.statements language ++ after ∧
      fact.deleted.statements language = before ++ after := by
  have silent' : ∀ lookup ∈ fact.deleted.lookups, lookup.candidates language = [] := silent
  refine ⟨fact.before.flatMap (Entity.statements language) ++
    fact.front.flatMap (Fact.statements language (language.vocabulary.resource fact.id) fact.type),
    fact.back.flatMap (Fact.statements language (language.vocabulary.resource fact.id) fact.type) ++
      fact.after.flatMap (Entity.statements language), ?_, ?_⟩
  · rw [Scope.statements_eq_ruleStatements silent, Scope.ruleStatements, fact.entities, statements]
    simp only [List.flatMap_append, List.flatMap_cons, Entity.statements_eq, Entity.facts,
      Entity.id, Entity.type, Fact.statements, List.append_assoc]
  · rw [Scope.statements_eq_ruleStatements silent', Scope.ruleStatements, deleted, Scope.entities]
    simp only [List.flatMap_append, List.flatMap_cons, Entity.statements_eq, Entity.facts,
      Entity.id, Entity.type, List.append_assoc]

/-- The scope without the repetitions lacks their diagnostics and no others, and it keeps the
order. -/
theorem exists_diagnostics_eq (language : Language) :
    ∃ before after, scope.diagnostics language = before ++ fact.diagnostics language ++ after ∧
      fact.deleted.diagnostics language = before ++ after := by
  refine ⟨scope.lookups.filterMap (Lookup.diagnostic? language) ++
    (fact.before.flatMap (Entity.diagnostics language) ++
      fact.front.flatMap (Fact.diagnostics language (language.vocabulary.resource fact.id))),
    fact.back.flatMap (Fact.diagnostics language (language.vocabulary.resource fact.id)) ++
      fact.after.flatMap (Entity.diagnostics language), ?_, ?_⟩
  · rw [Scope.diagnostics_eq, fact.entities, diagnostics]
    simp only [List.flatMap_append, List.flatMap_cons, Entity.diagnostics_eq, Entity.facts,
      Entity.id, Fact.diagnostics, List.append_assoc]
  · rw [Scope.diagnostics_eq, deleted, Scope.entities, Scope.lookups]
    simp only [List.flatMap_append, List.flatMap_cons, Entity.diagnostics_eq, Entity.facts,
      Entity.id, List.append_assoc]

end Scope.Repetition

namespace Scope.Repetition

variable {scope : Scope} {fact fact' : scope.Repetition} {t : Template} {rule : t.Repetition}

/-- What a rule has come to is found by the places of the rule and its entry. -/
theorem Of.deleted_eq (h : fact.Of rule) (h' : fact'.Of rule) : fact.deleted = fact'.deleted := by
  have entities := fact.entities.symm.trans fact'.entities
  obtain ⟨before, entities⟩ := List.append_inj entities (h.before.trans h'.before.symm)
  obtain ⟨entity, after⟩ := List.cons.inj entities
  obtain ⟨id, type, facts⟩ := Entity.mk.inj entity
  obtain ⟨front, facts⟩ := List.append_inj facts (h.front.trans h'.front.symm)
  obtain ⟨_, back⟩ := List.cons.inj facts
  rw [deleted, deleted, before, id, type, front, back, after]

end Scope.Repetition

/-! ### Deletion -/

namespace Expanding

section Deletion

variable {setting : Setting} {options : Options} {row : Row} {ids inherited : Identifiers}
variable {parts : Parts} {element : Option Nat}

variable {before after : List Entry} {type symbol name linked : String} {front back : List Rule}
variable {predicates : List String}

/-- A rule that repeats a subtemplate plays no part in the content of its entry. -/
theorem alike_of_deletion (row : Row) :
    Entry.Alike row row ⟨type, symbol, front ++ ⟨.repeated name linked, predicates⟩ :: back⟩
      ⟨type, symbol, front ++ back⟩ := by
  refine ⟨rfl, ?_⟩
  simp only [Entry.contentParts, List.filterMap_append, List.filterMap_cons]

theorem identify_of_deletion (deterministic : setting.mode.isDeterministic = true) :
    identify setting (before ++
        ⟨type, symbol, front ++ ⟨.repeated name linked, predicates⟩ :: back⟩ :: after) options row
        element inherited =
      identify setting (before ++ ⟨type, symbol, front ++ back⟩ :: after) options row element
        inherited := by
  have alike (entries : List Entry) : List.Forall₂ (Entry.Alike row row) entries entries :=
    List.forall₂_same.mpr fun entry _ => ⟨rfl, rfl⟩
  rw [identify, identify, if_pos deterministic, if_pos deterministic]
  rw [Identifiers.byContent_congr (fun _ => rfl)
    (List.rel_append (alike before) (.cons (alike_of_deletion row) (alike after)))]

theorem lookUpAll_of_deletion :
    lookUpAll setting options row ids (before ++
        ⟨type, symbol, front ++ ⟨.repeated name linked, predicates⟩ :: back⟩ :: after) =
      lookUpAll setting options row ids (before ++ ⟨type, symbol, front ++ back⟩ :: after) := by
  induction before with
  | nil =>
      have query : addressQuery? setting.language.vocabulary options row
          ⟨type, symbol, front ++ ⟨.repeated name linked, predicates⟩ :: back⟩ =
          addressQuery? setting.language.vocabulary options row ⟨type, symbol, front ++ back⟩ := by
        simp only [addressQuery?, addressFields, Entry.columnRules, List.filterMap_append,
          List.filterMap_cons]
      rw [List.nil_append, List.nil_append, lookUpAll, lookUpAll, query]
  | cons entry before ih =>
      rw [List.cons_append, List.cons_append, lookUpAll, lookUpAll, ih]

/-- A template that has a rule repeat a subtemplate always comes to a scope with the repetitions,
and without the rule it always comes to the scope without them. -/
theorem exists_deleted (deterministic : setting.mode.isDeterministic = true)
    (absent : setting.geocoder = none) {t : Template} {scope : Scope} (rule : t.Repetition)
    (always : Always (template setting t row inherited element) scope) :
    ∃ fact : scope.Repetition, fact.Of rule ∧
      Always (template setting rule.deleted row inherited element) fact.deleted ∧
      Becomes setting t.options (row.derive t.bindings) scope.identifiers
        (subtemplatesOf setting t.subtemplates)
        ⟨.repeated rule.name rule.linked, rule.predicates⟩
        (.repeated fact.predicates fact.occurrences) := by
  have steady := steady_subtemplatesOf deterministic absent t.subtemplates
  obtain ⟨identified, looked, entered⟩ := (always_template_iff deterministic absent).mp always
  rw [rule.entries, identify_of_deletion deterministic] at identified
  rw [rule.entries, lookUpAll_of_deletion] at looked
  rw [rule.entries, always_entities_iff deterministic steady] at entered
  obtain ⟨before, ⟨id, type, known⟩, after, entities, earlier, here, later⟩ :=
    exists_of_append_left entered
  obtain ⟨sameType, found, settled⟩ := here
  obtain ⟨front, repeated, back, facts, sooner, became, others⟩ := exists_of_append_left settled
  obtain rfl : known = front ++ repeated :: back := facts
  have becomes := yields_fact (became {})
  obtain ⟨_, _, occurrences, _, rfl, _⟩ := becomes.of_rule
  refine ⟨⟨before, id, type, front, rule.predicates, occurrences, back, after, entities⟩,
    ⟨earlier.length_eq.symm, sooner.length_eq.symm, found, sameType, rfl⟩, ?_, becomes⟩
  rw [always_template_iff deterministic absent]
  refine ⟨identified, looked, (always_entities_iff deterministic steady).mpr ?_⟩
  refine List.rel_append earlier (.cons ⟨sameType, found, ?_⟩ later)
  exact (List.rel_append sooner others).imp fun _ _ known => known.fact_of_symbol rfl

end Deletion

end Expanding

/-! ### Blocks -/

/-- The block of a repetition: the links to its entity, and then its statements. -/
def Language.block (language : Language) (subject : String) (predicates : List String) :
    Option (String × Scope) → List Statement
  | none => []
  | some (id, scope) => language.relate subject predicates (language.vocabulary.resource id) ++
      scope.statements language

theorem statementsOfOccurrences_eq_blocks (language : Language) (subject : String)
    (predicates : List String) (occurrences : List (String × Scope)) :
    statementsOfOccurrences language subject predicates occurrences =
      (occurrences.map some).flatMap (language.block subject predicates) := by
  rw [statementsOfOccurrences_eq, List.flatMap_map]
  rfl

namespace Expanding

/-- The repetition of a subtemplate for an element, with the identifier of the linked symbol, from
the row of the scope around and its identifiers. -/
def repetition? (setting : Setting) (iteration : Iteration) (inner : Template) (linked : String)
    (row : Row) (ids : Identifiers) (value : Datum) : Option (String × Scope) :=
  let outcome : Except ExpansionError Scope × Progress :=
    (template setting inner (row.bind iteration.variableName value .iteration) ids none).run {}
  match outcome.1 with
  | .error _ => none
  | .ok scope => (Entries.get? linked scope.identifiers).map (·, scope)

section Blocks

variable {setting : Setting} {options : Options} {row row' : Row} {ids : Identifiers}
variable {iteration : Iteration} {inner : Template} {linked : String} {values : List Datum}

/-- Neither the number of an element nor the elements around it play a part in its repetition. -/
theorem repetition?_of_repeats (deterministic : setting.mode.isDeterministic = true)
    (absent : setting.geocoder = none) {value : Datum} {i : Nat} {occurrence : String × Scope}
    (h : Repeats setting options row ids linked iteration.variableName (template setting inner)
      (value, i) occurrence) :
    repetition? setting iteration inner linked row ids value = some occurrence := by
  have run := h.always deterministic absent {}
  rw [Yields] at run
  simp only [repetition?, run, h.1, Option.map_some]

theorem map_repetition? (deterministic : setting.mode.isDeterministic = true)
    (absent : setting.geocoder = none) {i : Nat} {occurrences : List (String × Scope)}
    (h : List.Forall₂ (Repeats setting options row ids linked iteration.variableName
      (template setting inner)) (values.zipIdx i) occurrences) :
    occurrences.map some = values.map (repetition? setting iteration inner linked row ids) := by
  induction values generalizing i occurrences with
  | nil =>
      cases h
      rfl
  | cons value values ih =>
      rw [List.zipIdx_cons] at h
      cases h with
      | cons first others =>
          rw [List.map_cons, List.map_cons, ih others,
            repetition?_of_repeats deterministic absent first]

/-- A repetition sees the columns of the scope around, and nothing else of its row. -/
theorem repetition?_congr (same : ∀ name, row.get? name = row'.get? name ∧
      row.origin? name = row'.origin? name) :
    repetition? setting iteration inner linked row = repetition? setting iteration inner linked
      row' := by
  have alike : row.LooksLike inner.columns row' :=
    ⟨fun name _ => (same name).1, fun name => (same name).2, fun name _ => (same name).1⟩
  funext ids value
  rw [repetition?, repetition?, seesColumns setting inner _ _ ids none (alike.bind _ _ _)]

end Blocks

/-- If a rule that repeats a subtemplate is deleted where a chain leads in the template, the
template still expands, and the chain leads to the scope without the repetitions. -/
theorem Expands.exists_without {setting : Setting} {t u : Template} {rule : u.Repetition}
    {row : Row} {inherited : Identifiers} {element : Option Nat} {result scope : Scope}
    {fact : scope.Repetition} {chain : List Branch}
    (expanded : Expands setting t row inherited element result)
    (deterministic : setting.mode.isDeterministic = true) (absent : setting.geocoder = none)
    (followed : t.follow? chain = some u) (reached : result.follow? chain = some scope)
    (stands : fact.Of rule) :
    ∃ result', Expands setting (t.replaceAt chain rule.deleted) row inherited element result' ∧
      result'.follow? chain = some fact.deleted := by
  have keeps : Keeps setting u rule.deleted := by
    intro row inherited element other expanded
    obtain ⟨lacking, _, without, _⟩ :=
      exists_deleted deterministic absent rule (expanded.always deterministic absent)
    exact ⟨lacking.deleted, without.expands, rfl⟩
  obtain ⟨result', expanded', _⟩ :=
    Keeps.replaceAt deterministic absent followed keeps _ _ _ _ expanded
  obtain ⟨scope', _, _, _, reached', here, there⟩ :=
    expanded.follow_replaceAt deterministic absent followed expanded' reached
  -- Both scopes are what the two templates come to, so the one there lacks just the repetitions.
  obtain ⟨fact', stands', without, _⟩ :=
    exists_deleted deterministic absent rule (here.always deterministic absent)
  obtain rfl : scope' = fact.deleted := by
    rw [stands.deleted_eq stands']
    exact (there.always deterministic absent).unique without
  exact ⟨result', expanded', reached'⟩

end Expanding

/-- Repetitions are independent of each other and of the rest of their scope. Where content decides
and there is no geocoder, take any scope of a row that expands, and any rule of its template that
repeats a subtemplate. The rule contributes one block for every element, in the order of the
elements; a block is a function of the columns of the scope, its identifiers and the element. If the
rule is deleted from the template, the row still expands, and the scope has the same identifiers,
and the same statements and diagnostics in the same order but for those of the repetitions. -/
theorem independent_repetitions (setting : Setting) (t : Template) (header : Header)
    (cells : List Datum) (progress : Progress) (expansion : Expansion)
    (deterministic : setting.mode.isDeterministic = true) (absent : setting.geocoder = none)
    (done : (expandRow setting t header cells progress).1 = .ok expansion) :
    ∃ result, (Expanding.row setting t header cells).run progress = (.ok result, progress) ∧
      expansion = result.expansion setting.language ∧
      ∀ chain scope, result.follow? chain = some scope →
        ∃ site, (Site.root t { header, cells }).follow? chain = some site ∧
        ∀ rule : site.template.Repetition, ∃ iteration inner, ∃ fact : scope.Repetition,
          site.template.subtemplates.lookup rule.name = some (iteration, inner) ∧ fact.Of rule ∧
          let repetition? := Expanding.repetition? setting iteration inner rule.linked
          let elements := site.derived.values iteration.source
          let subject := setting.language.vocabulary.resource fact.id
          fact.occurrences.map some =
            elements.map (repetition? site.derived scope.identifiers) ∧
          fact.statements setting.language = elements.flatMap (fun element =>
            setting.language.block subject rule.predicates
              (repetition? site.derived scope.identifiers element)) ∧
          (∀ row : Row, (∀ name, row.get? name = site.derived.get? name ∧
              row.origin? name = site.derived.origin? name) →
            repetition? row = repetition? site.derived) ∧
          ∃ result' scope',
            (Expanding.row setting (t.replaceAt chain rule.deleted) header cells).run
              progress = (.ok result', progress) ∧
            result'.follow? chain = some scope' ∧ scope'.identifiers = scope.identifiers ∧
            (∃ before after,
              scope.statements setting.language =
                before ++ fact.statements setting.language ++ after ∧
              scope'.statements setting.language = before ++ after) ∧
            ∃ before after,
              scope.diagnostics setting.language =
                before ++ fact.diagnostics setting.language ++ after ∧
              scope'.diagnostics setting.language = before ++ after := by
  obtain ⟨result, progress', yields, rfl⟩ := exists_scope_of_expandRow done
  have steady := steady_template deterministic absent t { header, cells } [] none
  have always : Always (Expanding.row setting t header cells) result := steady.always yields
  refine ⟨result, always progress, rfl, ?_⟩
  intro chain scope reached
  obtain ⟨site, inherited, leads, matched⟩ :=
    (Site.Matches.root always.expands).exists_site reached
  refine ⟨site, leads, ?_⟩
  intro rule
  obtain ⟨fact, stands, _, becomes⟩ :=
    exists_deleted deterministic absent rule (matched.expands.always deterministic absent)
  obtain ⟨iteration, inner, occurrences, part, same, repeats⟩ := becomes.of_rule
  obtain ⟨_, rfl⟩ := Fact.repeated.inj same
  have occurrences := map_repetition? deterministic absent repeats
  refine ⟨iteration, inner, fact, part, stands, occurrences, ?_, ?_, ?_⟩
  · rw [Scope.Repetition.statements, statementsOfOccurrences_eq_blocks, stands.predicates,
      occurrences, List.flatMap_map]
    rfl
  · intro row same
    exact repetition?_congr same
  · have followed : t.follow? chain = some site.template := Site.template_follow? leads
    obtain ⟨result', without, reached'⟩ :=
      always.expands.exists_without deterministic absent followed reached stands
    refine ⟨result', fact.deleted, without.always deterministic absent progress, reached', rfl,
      fact.exists_statements_eq ?_, fact.exists_diagnostics_eq setting.language⟩
    intro lookup member
    exact matched.expands.not_offered absent member setting.language

def kennelRule : kennelTemplate.Repetition where
  before := []
  type := "Owner"
  symbol := "owner"
  front := [⟨.type, []⟩, ⟨.column "name", ["name"]⟩]
  name := "pets"
  linked := "pet"
  predicates := ["keeps"]
  back := []
  after := []
  entries := rfl

/-- A kennel has one block for either of its pets. Without the rule the owner is left as before. -/
theorem independent_repetitions_kennel :
    globalSetting.mode.isDeterministic = true ∧ globalSetting.geocoder = none ∧ ∃ expansion,
      (expandRow globalSetting kennelTemplate ⟨["name", "pets"]⟩
        [.text "Ada", .list [.text "Rex", .text "Tom"]] {}).1 = .ok expansion ∧
      ∃ (scope scope' : Scope) (fact : scope.Repetition) (rex tom : String × Scope),
        expansion = scope.expansion globalSetting.language ∧ fact.Of kennelRule ∧
        fact.occurrences = [rex, tom] ∧
        ((Expanding.row globalSetting kennelRule.deleted ⟨["name", "pets"]⟩
          [.text "Ada", .list [.text "Rex", .text "Tom"]]).run {}).1 = .ok scope' ∧
        scope'.identifiers = scope.identifiers ∧ ∃ before after,
          scope.statements globalSetting.language =
            before ++ fact.statements globalSetting.language ++ after ∧
          scope'.statements globalSetting.language = before ++ after := by
  have done : ∃ expansion, (expandRow globalSetting kennelTemplate ⟨["name", "pets"]⟩
      [.text "Ada", .list [.text "Rex", .text "Tom"]] {}).1 = .ok expansion := ⟨_, rfl⟩
  obtain ⟨expansion, done⟩ := done
  obtain ⟨scope, _, same, independent⟩ :=
    independent_repetitions globalSetting kennelTemplate _ _ {} expansion rfl rfl done
  obtain ⟨site, leads, independent⟩ := independent [] scope rfl
  cases leads
  obtain ⟨iteration, inner, fact, part, stands, occurrences, _, _, scope', _, run, reached, found,
    statements, _⟩ := independent kennelRule
  cases part
  cases reached
  obtain ⟨rex, tom, listed⟩ : ∃ rex tom, fact.occurrences = [rex, tom] := by
    apply List.length_eq_two.mp
    have length := congrArg List.length occurrences
    rwa [List.length_map, List.length_map] at length
  have lacking : ((Expanding.row globalSetting kennelRule.deleted ⟨["name", "pets"]⟩
      [.text "Ada", .list [.text "Rex", .text "Tom"]]).run {}).1 = .ok scope' :=
    congrArg Prod.fst run
  exact ⟨rfl, rfl, expansion, done, scope, scope', fact, rex, tom, same, stands, listed, lacking,
    found, statements⟩

end RowTriples
