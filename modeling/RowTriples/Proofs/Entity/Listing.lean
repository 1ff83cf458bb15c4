import RowTriples.Entity.Expansion
/-!
# The statements and diagnostics of a scope, in order

A scope lists first what its rules state, entity by entity and fact by fact, with the statements of
its repetitions in between, and then what its lookups add. An addition is a candidate of a lookup
whose slot is free: no statement of the rules has it, and no addition before it. The diagnostics are
listed the other way round, those of the lookups first.
-/

namespace RowTriples

section Lists

variable (language : Language)

theorem statementsOfEntities_eq (entities : List Entity) :
    statementsOfEntities language entities = entities.flatMap (Entity.statements language) := by
  induction entities with
  | nil => rfl
  | cons entity entities ih => rw [statementsOfEntities, ih, List.flatMap_cons]

theorem statementsOfFacts_eq (subject type : String) (facts : List Fact) :
    statementsOfFacts language subject type facts =
      facts.flatMap (Fact.statements language subject type) := by
  induction facts with
  | nil => rfl
  | cons fact facts ih => rw [statementsOfFacts, ih, List.flatMap_cons]

theorem statementsOfOccurrences_eq (subject : String) (predicates : List String)
    (occurrences : List (String × Scope)) :
    statementsOfOccurrences language subject predicates occurrences =
      occurrences.flatMap fun occurrence =>
        language.relate subject predicates (language.vocabulary.resource occurrence.1) ++
          occurrence.2.statements language := by
  induction occurrences with
  | nil => rfl
  | cons occurrence occurrences ih =>
      obtain ⟨id, scope⟩ := occurrence
      rw [statementsOfOccurrences, ih, List.flatMap_cons]

theorem diagnosticsOfEntities_eq (entities : List Entity) :
    diagnosticsOfEntities language entities = entities.flatMap (Entity.diagnostics language) := by
  induction entities with
  | nil => rfl
  | cons entity entities ih => rw [diagnosticsOfEntities, ih, List.flatMap_cons]

theorem diagnosticsOfFacts_eq (subject : String) (facts : List Fact) :
    diagnosticsOfFacts language subject facts =
      facts.flatMap (Fact.diagnostics language subject) := by
  induction facts with
  | nil => rfl
  | cons fact facts ih => rw [diagnosticsOfFacts, ih, List.flatMap_cons]

theorem diagnosticsOfOccurrences_eq (occurrences : List (String × Scope)) :
    diagnosticsOfOccurrences language occurrences =
      occurrences.flatMap fun occurrence => occurrence.2.diagnostics language := by
  induction occurrences with
  | nil => rfl
  | cons occurrence occurrences ih =>
      obtain ⟨id, scope⟩ := occurrence
      rw [diagnosticsOfOccurrences, ih, List.flatMap_cons]

end Lists

/-! ### Additions -/

/-- Those of the candidates whose slot is free when their turn comes. -/
def additions (statements : List Statement) : (candidates : List Statement) → List Statement
  | [] => []
  | candidate :: candidates =>
    if statements.any (·.sameSlot candidate) then additions statements candidates
    else candidate :: additions (statements ++ [candidate]) candidates

theorem fillSlots_eq (statements candidates : List Statement) :
    fillSlots statements candidates = statements ++ additions statements candidates := by
  induction candidates generalizing statements with
  | nil => rw [fillSlots, additions, List.append_nil]
  | cons candidate candidates ih =>
      rw [fillSlots, additions]
      split
      · exact ih statements
      · rw [ih, List.append_assoc, List.singleton_append]

/-- An addition is a candidate whose slot no statement has. -/
theorem free_of_mem_additions {statements candidates : List Statement} {s : Statement}
    (added : s ∈ additions statements candidates) :
    s ∈ candidates ∧ ∀ stated ∈ statements, stated.sameSlot s = false := by
  induction candidates generalizing statements with
  | nil => cases added
  | cons candidate candidates ih =>
      rw [additions] at added
      split at added
      next =>
        obtain ⟨offered, free⟩ := ih added
        exact ⟨List.mem_cons_of_mem _ offered, free⟩
      next unoccupied =>
        rcases List.mem_cons.mp added with rfl | added
        · exact ⟨List.mem_cons_self, by simpa using unoccupied⟩
        · obtain ⟨offered, free⟩ := ih added
          exact ⟨List.mem_cons_of_mem _ offered,
            fun stated member => free stated (List.mem_append_left _ member)⟩

/-! ### Scopes -/

theorem Entity.statements_eq (language : Language) (entity : Entity) :
    entity.statements language = entity.facts.flatMap
      (Fact.statements language (language.vocabulary.resource entity.id) entity.type) := by
  obtain ⟨id, type, facts⟩ := entity
  rw [Entity.statements, statementsOfFacts_eq]
  rfl

theorem Entity.diagnostics_eq (language : Language) (entity : Entity) :
    entity.diagnostics language =
      entity.facts.flatMap
        (Fact.diagnostics language (language.vocabulary.resource entity.id)) := by
  obtain ⟨id, type, facts⟩ := entity
  rw [Entity.diagnostics, diagnosticsOfFacts_eq]
  rfl

namespace Scope

variable (language : Language)

/-- What the rules of a scope state, with the statements of its repetitions. -/
def ruleStatements (scope : Scope) : List Statement :=
  scope.entities.flatMap (Entity.statements language)

def lookupStatements (scope : Scope) : List Statement :=
  additions (scope.ruleStatements language) (scope.lookups.flatMap (Lookup.candidates language))

theorem statements_eq (scope : Scope) :
    scope.statements language =
      scope.ruleStatements language ++ scope.lookupStatements language := by
  obtain ⟨ids, lookups, entities⟩ := scope
  rw [Scope.statements, statementsOfEntities_eq, fillSlots_eq]
  rfl

theorem diagnostics_eq (scope : Scope) :
    scope.diagnostics language = scope.lookups.filterMap (Lookup.diagnostic? language) ++
      scope.entities.flatMap (Entity.diagnostics language) := by
  obtain ⟨ids, lookups, entities⟩ := scope
  rw [Scope.diagnostics, diagnosticsOfEntities_eq]
  rfl

theorem statements_eq_ruleStatements {language : Language} {scope : Scope}
    (silent : ∀ lookup ∈ scope.lookups, lookup.candidates language = []) :
    scope.statements language = scope.ruleStatements language := by
  have offered : scope.lookups.flatMap (Lookup.candidates language) = [] :=
    List.flatMap_eq_nil_iff.mpr silent
  rw [statements_eq, lookupStatements, offered, additions, List.append_nil]

theorem mem_ruleStatements_iff {language : Language} {scope : Scope} {s : Statement} :
    s ∈ scope.ruleStatements language ↔ ∃ entity ∈ scope.entities, ∃ fact ∈ entity.facts,
      s ∈ fact.statements language (language.vocabulary.resource entity.id) entity.type := by
  simp only [ruleStatements, Entity.statements_eq, List.mem_flatMap]

end Scope

end RowTriples
