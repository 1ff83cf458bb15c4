import RowTriples.Proofs.Entity.Links
/-!
# Where statements come from

Every statement of a row is written in one of its scopes: for a fact of an entity there, or for an
address lookup. The scopes of a row are those that its chains of repetitions lead to, so what holds
of the facts and lookups of each scope holds of all statements.
-/

namespace RowTriples

/-- What a fact says about a subject of a class. -/
inductive Fact.Says (language : Language) (subject type : String) : Fact → Statement → Prop where
  | type : Says language subject type .type
      ⟨subject, iriToken rdfType, language.vocabulary.resource type⟩
  | link {fact : Fact} {predicates : List String} {predicate id : String}
      (links : fact.LinksTo predicates id) (member : predicate ∈ predicates) :
      Says language subject type fact
        ⟨subject, language.vocabulary.resource predicate, language.vocabulary.resource id⟩
  | value {predicates : List String} {values : List Datum} {predicate object : String}
      {value : Datum} (member : predicate ∈ predicates) (valueMember : value ∈ values)
      (literal : language.literal predicate value = .ok object) :
      Says language subject type (.values predicates values)
        ⟨subject, language.vocabulary.resource predicate, object⟩

inductive Feature.Says (language : Language) (subject : String) (feature : Feature) :
    Statement → Prop where
  | fullText {name : String} (named : feature.properties.displayName = some name) :
      Says language subject feature
        ⟨subject, language.vocabulary.resource Address.fullText, NTriples.plainLiteral name⟩
  | part {key predicate text : String} (listed : (key, predicate) ∈ Feature.addressParts)
      (found : (Entries.get? key feature.properties.address).bind Feature.partText? = some text) :
      Says language subject feature
        ⟨subject, language.vocabulary.resource predicate, NTriples.plainLiteral text⟩
  | point {fields : Entries Json} {object : String} (located : feature.geometry = some fields)
      (literal : language.literal Address.geoPoint (.object fields) = .ok object) :
      Says language subject feature
        ⟨subject, language.vocabulary.resource Address.geoPoint, object⟩

/-- What a scope itself says, without its repetitions. -/
inductive Scope.Says (language : Language) (result : Scope) : Statement → Prop where
  | fact {entity : Entity} {fact : Fact} {statement : Statement}
      (entityMember : entity ∈ result.entities) (factMember : fact ∈ entity.facts)
      (told : fact.Says language (language.vocabulary.resource entity.id) entity.type statement) :
      Says language result statement
  | lookup {lookup : Lookup} {statement : Statement} (member : lookup ∈ result.lookups)
      (offered : statement ∈ lookup.candidates language) : Says language result statement

/-- A rule of the scope itself states the statement. -/
def Scope.States (language : Language) (result : Scope) (statement : Statement) : Prop :=
  ∃ entity ∈ result.entities, ∃ fact ∈ entity.facts,
    fact.Says language (language.vocabulary.resource entity.id) entity.type statement

variable {language : Language} {statement : Statement}

/-! ### One level -/

theorem Fact.Says.subject {subject type : String} {fact : Fact}
    (h : fact.Says language subject type statement) : statement.subject = subject := by
  cases h <;> rfl

theorem Feature.Says.subject {subject : String} {feature : Feature}
    (h : feature.Says language subject statement) : statement.subject = subject := by
  cases h <;> rfl

/-- What a fact says is written for it. -/
theorem Fact.Says.mem {subject type : String} {fact : Fact}
    (h : fact.Says language subject type statement) :
    statement ∈ fact.statements language subject type := by
  cases h with
  | type => exact List.mem_singleton_self _
  | link links member =>
      cases links with
      | link => exact List.mem_map_of_mem member
      | repeated listed =>
          exact mem_statementsOfOccurrences listed (.inl (List.mem_map_of_mem member))
  | value member valueMember literal =>
      refine List.mem_flatMap.mpr ⟨_, member, List.mem_filterMap.mpr ⟨_, valueMember, ?_⟩⟩
      rw [literal]

/-- What is written for a fact is said by the fact or, behind a repetition, written for the scope
there. -/
theorem says_or_exists_occurrence {subject type : String} {fact : Fact}
    (written : statement ∈ fact.statements language subject type) :
    fact.Says language subject type statement ∨
      ∃ predicates occurrences, fact = .repeated predicates occurrences ∧
        ∃ occurrence ∈ occurrences, statement ∈ occurrence.2.statements language := by
  cases fact with
  | type =>
      obtain rfl := List.mem_singleton.mp written
      exact .inl .type
  | link predicates id =>
      obtain ⟨predicate, member, rfl⟩ := List.mem_map.mp written
      exact .inl (.link .link member)
  | values predicates values =>
      obtain ⟨predicate, member, written⟩ := List.mem_flatMap.mp written
      obtain ⟨value, valueMember, written⟩ := List.mem_filterMap.mp written
      split at written
      next object literal =>
        cases written
        exact .inl (.value member valueMember literal)
      next => cases written
  | repeated predicates occurrences =>
      rw [Fact.statements, statementsOfOccurrences_eq] at written
      obtain ⟨⟨id, scope⟩, member, written⟩ := List.mem_flatMap.mp written
      rcases List.mem_append.mp written with written | written
      · obtain ⟨predicate, predicateMember, rfl⟩ := List.mem_map.mp written
        exact .inl (.link (.repeated member) predicateMember)
      · exact .inr ⟨predicates, occurrences, rfl, _, member, written⟩

/-- What a lookup offers is what its match says about the entity that was looked up. -/
theorem exists_match_of_offered {lookup : Lookup}
    (offered : statement ∈ lookup.candidates language) :
    ∃ feature, lookup.outcome = .matched feature ∧
      feature.Says language (lookup.subject language) statement := by
  unfold Lookup.candidates at offered
  split at offered
  next feature matched =>
    refine ⟨feature, matched, ?_⟩
    simp only [Feature.statements, List.mem_append, List.mem_map, List.mem_filterMap,
      Option.mem_toList] at offered
    rcases offered with (⟨name, named, rfl⟩ | ⟨⟨key, predicate⟩, listed, part⟩) |
      ⟨fields, located, point⟩
    · exact .fullText named
    · obtain ⟨text, found, same⟩ := Option.bind_eq_some_iff.mp part
      cases same
      exact .part listed found
    · split at point
      next object literal =>
        cases point
        exact .point located literal
      next => cases point
  next => cases offered

/-! ### All levels -/

/-- Every repetition of a scope has a branch that leads to it. -/
theorem Scope.exists_branch?_of_mem {result : Scope} {entity : Entity} {predicates : List String}
    {occurrences : List (String × Scope)} {occurrence : String × Scope}
    (entityMember : entity ∈ result.entities) (factMember : .repeated predicates occurrences ∈
      entity.facts) (member : occurrence ∈ occurrences) :
    ∃ branch, result.branch? branch = some occurrence := by
  obtain ⟨i, entityAt⟩ := List.getElem?_of_mem entityMember
  obtain ⟨j, factAt⟩ := List.getElem?_of_mem factMember
  obtain ⟨k, occurrenceAt⟩ := List.getElem?_of_mem member
  exact ⟨⟨i, j, k⟩, Scope.branch?_eq_some_iff.mpr
    ⟨entity, predicates, occurrences, entityAt, factAt, occurrenceAt⟩⟩

/-- A repetition is smaller than the scope that it is in. -/
theorem Scope.sizeOf_lt_of_occurrence {result : Scope} {entity : Entity} {predicates : List String}
    {occurrences : List (String × Scope)} {occurrence : String × Scope}
    (entityMember : entity ∈ result.entities) (factMember : .repeated predicates occurrences ∈
      entity.facts) (member : occurrence ∈ occurrences) : sizeOf occurrence.2 < sizeOf result := by
  obtain ⟨ids, lookups, entities⟩ := result
  obtain ⟨id, type, facts⟩ := entity
  obtain ⟨linked, inner⟩ := occurrence
  have outer : sizeOf entities < sizeOf (Scope.mk ids lookups entities) := by
    rw [Scope.mk.sizeOf_spec]
    omega
  have entitySize := List.sizeOf_lt_of_mem entityMember
  have factSize := List.sizeOf_lt_of_mem factMember
  have occurrenceSize := List.sizeOf_lt_of_mem member
  simp only [Scope.entities, Entity.facts, Entity.mk.sizeOf_spec, Fact.repeated.sizeOf_spec,
    Prod.mk.sizeOf_spec] at entitySize factSize occurrenceSize
  change sizeOf inner < _
  omega

/-- Every statement of a scope is stated by a rule of a scope that a chain of repetitions leads to,
or it is added for a lookup there. -/
theorem Scope.exists_source (result : Scope) (written : statement ∈ result.statements language) :
    ∃ chain inner, result.follow? chain = some inner ∧
      (inner.States language statement ∨ statement ∈ inner.lookupStatements language) := by
  rw [statements_eq, List.mem_append] at written
  rcases written with written | added
  · obtain ⟨entity, entityMember, fact, factMember, written⟩ := mem_ruleStatements_iff.mp written
    rcases says_or_exists_occurrence written with told |
      ⟨predicates, occurrences, rfl, occurrence, member, written⟩
    · exact ⟨[], result, rfl, .inl ⟨entity, entityMember, fact, factMember, told⟩⟩
    · have smaller : sizeOf occurrence.2 < sizeOf result :=
        sizeOf_lt_of_occurrence entityMember factMember member
      obtain ⟨chain, inner, reached, source⟩ := Scope.exists_source occurrence.2 written
      obtain ⟨branch, step⟩ := Scope.exists_branch?_of_mem entityMember factMember member
      exact ⟨branch :: chain, inner, Option.bind_eq_some_iff.mpr ⟨_, step, reached⟩, source⟩
  · exact ⟨[], result, rfl, .inr added⟩
termination_by sizeOf result

/-- Every statement of a scope is said by a scope that a chain of repetitions leads to. -/
theorem Scope.exists_says (result : Scope) (written : statement ∈ result.statements language) :
    ∃ chain inner, result.follow? chain = some inner ∧ inner.Says language statement := by
  obtain ⟨chain, inner, reached, source⟩ := result.exists_source written
  refine ⟨chain, inner, reached, ?_⟩
  rcases source with ⟨entity, entityMember, fact, factMember, told⟩ | added
  · exact .fact entityMember factMember told
  · obtain ⟨lookup, member, offered⟩ := List.mem_flatMap.mp (free_of_mem_additions added).1
    exact .lookup member offered

end RowTriples
