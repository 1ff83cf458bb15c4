import RowTriples.Proofs.Entity.Chain
import RowTriples.Proofs.Entity.Listing
import RowTriples.Proofs.Entity.WellLinked
/-!
# Links and the entities that they lead to

A link is written for every rule that names a symbol and for every repetition. It leads to an entity
of the row if its object is the subject of a statement about a class.

Where content decides, a symbol has an identifier only because some scope declares it, so there is
an entity with that identifier. Otherwise a repetition is entered with an identifier of its own for
the linked symbol, whether or not the subtemplate declares that symbol. If it does not, nothing has
to have that identifier, and these are the only links that can lead nowhere.
-/

namespace RowTriples

/-- The fact is a link, with some predicates, to the entity with an identifier. -/
inductive Fact.LinksTo : Fact → List String → String → Prop where
  | link {predicates : List String} {id : String} : LinksTo (.link predicates id) predicates id
  | repeated {predicates : List String} {id : String} {inner : Scope}
      {occurrences : List (String × Scope)} (member : (id, inner) ∈ occurrences) :
      LinksTo (.repeated predicates occurrences) predicates id

namespace Scope

variable (language : Language)

/-- The statement is written for a link of an entity, at any depth. -/
def IsLink (result : Scope) (statement : Statement) : Prop :=
  ∃ chain inner entity fact predicates id, result.follow? chain = some inner ∧
    entity ∈ inner.entities ∧ fact ∈ entity.facts ∧ fact.LinksTo predicates id ∧
    statement ∈ language.relate (language.vocabulary.resource entity.id) predicates
      (language.vocabulary.resource id)

/-- The statement is written for the class of an entity, at any depth. -/
def IsTyping (result : Scope) (statement : Statement) : Prop :=
  ∃ chain inner entity, result.follow? chain = some inner ∧ entity ∈ inner.entities ∧
    .type ∈ entity.facts ∧
    statement = ⟨language.vocabulary.resource entity.id, iriToken rdfType,
      language.vocabulary.resource entity.type⟩

/-- The object of the link is the subject of a statement about a class. -/
def Resolves (result : Scope) (link : Statement) : Prop :=
  ∃ typing ∈ result.statements language, result.IsTyping language typing ∧
    typing.subject = link.object

/-- Every link is written, and its object is the subject of a statement about a class. -/
def LinksResolve (result : Scope) : Prop :=
  ∀ link, result.IsLink language link →
    link ∈ result.statements language ∧ result.Resolves language link

/-- The identifier is that of an entity, at any depth. -/
def HasEntity (result : Scope) (id : String) : Prop :=
  ∃ chain inner entity, result.follow? chain = some inner ∧ entity ∈ inner.entities ∧ entity.id = id

/-- The identifier links a repetition of a subtemplate that does not declare the linked symbol. -/
def LinksUndeclared (t : Template) (result : Scope) (id : String) : Prop :=
  ∃ chain t' outer branch symbol iteration inner repetition, t.follow? chain = some t' ∧
    result.follow? chain = some outer ∧ t'.branch? branch = some (symbol, iteration, inner) ∧
    outer.branch? branch = some (id, repetition) ∧ symbol ∉ inner.symbols

end Scope

/-! ### Statements of nested scopes -/

section Statements

variable {language : Language} {result inner : Scope} {statement : Statement}

theorem mem_fillSlots {statements candidates : List Statement} (member : statement ∈ statements) :
    statement ∈ fillSlots statements candidates := by
  rw [fillSlots_eq]
  exact List.mem_append_left _ member

theorem mem_statementsOfOccurrences {subject id : String} {predicates : List String}
    {occurrences : List (String × Scope)} (member : (id, inner) ∈ occurrences)
    (written : statement ∈ language.relate subject predicates (language.vocabulary.resource id) ∨
      statement ∈ inner.statements language) :
    statement ∈ statementsOfOccurrences language subject predicates occurrences := by
  rw [statementsOfOccurrences_eq]
  exact List.mem_flatMap.mpr ⟨_, member, List.mem_append.mpr written⟩

/-- What a fact of an entity says is among the statements of the entity's scope. -/
theorem Scope.mem_statements_of_fact {entity : Entity} {fact : Fact}
    (entityMember : entity ∈ result.entities) (factMember : fact ∈ entity.facts)
    (written : statement ∈ fact.statements language (language.vocabulary.resource entity.id)
      entity.type) : statement ∈ result.statements language := by
  rw [statements_eq]
  apply List.mem_append_left
  exact mem_ruleStatements_iff.mpr ⟨entity, entityMember, fact, factMember, written⟩

/-- The statements of a scope at any depth are written. -/
theorem Scope.mem_statements_of_follow? {chain : List Branch}
    (reached : result.follow? chain = some inner)
    (written : statement ∈ inner.statements language) :
    statement ∈ result.statements language := by
  induction chain generalizing result with
  | nil =>
      cases reached
      exact written
  | cons branch chain ih =>
      obtain ⟨⟨id, middle⟩, found, reached⟩ := Option.bind_eq_some_iff.mp reached
      obtain ⟨entity, predicates, occurrences, entityAt, factAt, occurrenceAt⟩ :=
        Scope.branch?_eq_some_iff.mp found
      refine Scope.mem_statements_of_fact (List.mem_of_getElem? entityAt)
        (List.mem_of_getElem? factAt) ?_
      exact mem_statementsOfOccurrences (List.mem_of_getElem? occurrenceAt) (.inr (ih reached))

theorem Scope.IsTyping.mem (h : result.IsTyping language statement) :
    statement ∈ result.statements language := by
  obtain ⟨chain, inner, entity, reached, entityMember, typed, rfl⟩ := h
  refine mem_statements_of_follow? reached (mem_statements_of_fact entityMember typed ?_)
  exact List.mem_singleton_self _

theorem Scope.IsLink.mem (h : result.IsLink language statement) :
    statement ∈ result.statements language := by
  obtain ⟨chain, inner, entity, fact, predicates, id, reached, entityMember, factMember, links,
    written⟩ := h
  refine mem_statements_of_follow? reached (mem_statements_of_fact entityMember factMember ?_)
  cases links with
  | link => exact written
  | repeated member => exact mem_statementsOfOccurrences member (.inl written)

end Statements

/-! ### What identifiers stand for -/

theorem Template.Everywhere.of_branch? {property : Template → Prop} {t inner : Template}
    (h : t.Everywhere property) {branch : Branch} {symbol : String} {iteration : Iteration}
    (found : t.branch? branch = some (symbol, iteration, inner)) : inner.Everywhere property := by
  obtain ⟨_, _, _, _, _, part⟩ := Template.branch?_eq_some_iff.mp found
  exact h.of_lookup part

section Settled

open Expanding

variable {setting : Setting} {t t' : Template} {row : Row} {inherited : Identifiers}
variable {element : Option Nat} {result inner : Scope} {chain : List Branch} {id : String}

/-- The identifier of a symbol that a template declares is that of an entity of its scope. -/
theorem Expanding.Expands.exists_entity (h : Expands setting t row inherited element result)
    {symbol : String} (declared : symbol ∈ t.symbols)
    (found : Entries.get? symbol result.identifiers = some id) :
    ∃ entity ∈ result.entities, entity.id = id := by
  obtain ⟨entry, member, rfl⟩ := List.mem_map.mp (mem_declaredSymbols.mp declared)
  obtain ⟨entity, entityMember, instantiates⟩ := exists_of_mem_left h.run.2 member
  exact ⟨entity, entityMember, Option.some.inj (instantiates.id.symm.trans found)⟩

/-- Where every entry says its class, every entity does. -/
theorem Expanding.Expands.typed (h : Expands setting t row inherited element result)
    (complete : t.IsComplete) {entity : Entity} (member : entity ∈ result.entities) :
    .type ∈ entity.facts := by
  obtain ⟨entry, entryMember, instantiates⟩ := exists_of_mem_right h.run.2 member
  obtain ⟨⟨target, predicates⟩, ruleMember, rfl⟩ := complete.typed entry entryMember
  obtain ⟨fact, factMember, becomes⟩ := exists_of_mem_left instantiates.facts ruleMember
  cases becomes
  exact factMember

/-- The identifier is that of an entity of the row, or else it was given, not by content, to a
symbol that its subtemplate does not declare. -/
def Settled (setting : Setting) (t : Template) (result : Scope) (id : String) : Prop :=
  result.HasEntity id ∨ (setting.mode.isDeterministic = false ∧ result.LinksUndeclared t id)

/-- If the identifiers that a scope is entered with are settled, all its identifiers are. -/
theorem settled_identifiers (reached : result.follow? chain = some inner)
    (h : Expands setting t' row inherited element inner)
    (entered : ∀ name id, Entries.get? name inherited = some id → Settled setting t result id) :
    ∀ name id, Entries.get? name inner.identifiers = some id → Settled setting t result id := by
  intro name id found
  by_cases known : name ∈ Entries.names inherited
  · exact entered name id ((h.run.1.kept known).symm.trans found)
  · have declared := ((h.run.1.names name).mp (Entries.mem_names_of_get? found)).resolve_left known
    obtain ⟨entity, member, same⟩ := h.exists_entity declared found
    exact .inl ⟨chain, inner, entity, reached, member, same⟩

/-- A repetition is entered with settled identifiers from a scope with settled identifiers. -/
theorem settled_seed {outer : Scope} {branch : Branch} {symbol : String} {iteration : Iteration}
    {part : Template} {seed : Identifiers} {options : Options}
    (followed : t.follow? chain = some t') (reached : result.follow? chain = some outer)
    (settled : ∀ name id, Entries.get? name outer.identifiers = some id →
      Settled setting t result id)
    (branchAt : t'.branch? branch = some (symbol, iteration, part))
    (occurrenceAt : outer.branch? branch = some (id, inner))
    (linked : Entries.get? symbol inner.identifiers = some id)
    (seeds : Seeds setting options row outer.identifiers symbol branch.element seed)
    (h : Expands setting part row seed element inner) :
    ∀ name id, Entries.get? name seed = some id → Settled setting t result id := by
  rcases seeds with ⟨_, rfl⟩ | ⟨mode, minted, rfl, _⟩
  · exact settled
  -- The repetition keeps the identifier that it is entered with, so that is the one linked.
  have put := Entries.get?_put_self symbol minted outer.identifiers
  have kept := h.run.1.kept (Entries.mem_names_of_get? put)
  rw [linked, put] at kept
  obtain rfl : id = minted := Option.some.inj kept
  have fresh : Settled setting t result id := by
    by_cases declared : symbol ∈ part.symbols
    · obtain ⟨entity, member, same⟩ := h.exists_entity declared linked
      exact .inl ⟨chain ++ [branch], inner, entity,
        Scope.follow?_concat.mpr ⟨outer, id, reached, occurrenceAt⟩, member, same⟩
    · exact .inr ⟨mode, chain, t', outer, branch, symbol, iteration, part, inner, followed, reached,
        branchAt, occurrenceAt, declared⟩
  intro name other found
  rw [Entries.get?_put] at found
  split at found
  · cases found
    exact fresh
  · exact settled name other found

/-- Every scope of a row expands a complete template, and its identifiers are settled. -/
theorem settled_of_follow? (expanded : Expands setting t row [] none result)
    (complete : t.Everywhere Template.IsComplete) (reached : result.follow? chain = some inner) :
    ∃ t' row' inherited element, t.follow? chain = some t' ∧
      t'.Everywhere Template.IsComplete ∧ Expands setting t' row' inherited element inner ∧
      ∀ name id, Entries.get? name inner.identifiers = some id → Settled setting t result id := by
  induction chain using List.reverseRecOn generalizing inner with
  | nil =>
      cases reached
      have root : result.follow? [] = some result := rfl
      exact ⟨t, row, [], none, rfl, complete, expanded, settled_identifiers root expanded nofun⟩
  | append_singleton chain branch ih =>
      obtain ⟨outer, id, reachedOuter, occurrenceAt⟩ := Scope.follow?_concat.mp reached
      obtain ⟨t', row', inherited, element, followed, complete', expands, settled⟩ :=
        ih reachedOuter
      obtain ⟨symbol, iteration, part, value, branchAt, _, linked, seed, seeds, entered⟩ :=
        expands.repeats_of_branch? occurrenceAt
      refine ⟨part, _, seed, _, ?_, complete'.of_branch? branchAt, entered, ?_⟩
      · exact Template.follow?_concat.mpr ⟨t', symbol, iteration, followed, branchAt⟩
      · exact settled_identifiers reached entered
          (settled_seed followed reachedOuter settled branchAt occurrenceAt linked seeds entered)

/-- Every link leads to a settled identifier. -/
theorem settled_of_isLink (expanded : Expands setting t row [] none result)
    (complete : t.Everywhere Template.IsComplete) {language : Language} {link : Statement}
    (isLink : result.IsLink language link) :
    ∃ id, link.object = language.vocabulary.resource id ∧ Settled setting t result id := by
  obtain ⟨chain, inner, entity, fact, predicates, id, reached, entityMember, factMember, links,
    written⟩ := isLink
  obtain ⟨predicate, _, rfl⟩ := List.mem_map.mp written
  refine ⟨id, rfl, ?_⟩
  obtain ⟨t', row', inherited, element, _, _, expands, settled⟩ :=
    settled_of_follow? expanded complete reached
  cases links with
  | link =>
      obtain ⟨entry, _, instantiates⟩ := exists_of_mem_right expands.run.2 entityMember
      obtain ⟨rule, _, becomes⟩ := exists_of_mem_right instantiates.facts factMember
      cases becomes with
      | @link name _ _ known => exact settled name id known
  | @repeated _ _ repetition occurrences member =>
      obtain ⟨i, entityAt⟩ := List.getElem?_of_mem entityMember
      obtain ⟨j, factAt⟩ := List.getElem?_of_mem factMember
      obtain ⟨k, occurrenceAt⟩ := List.getElem?_of_mem member
      have branchAt : inner.branch? ⟨i, j, k⟩ = some (id, repetition) := by
        apply Scope.branch?_eq_some_iff.mpr
        exact ⟨entity, predicates, occurrences, entityAt, factAt, occurrenceAt⟩
      have reached' : result.follow? (chain ++ [⟨i, j, k⟩]) = some repetition :=
        Scope.follow?_concat.mpr ⟨inner, id, reached, branchAt⟩
      obtain ⟨symbol, _, _, _, _, _, linked, _⟩ := expands.repeats_of_branch? branchAt
      obtain ⟨_, _, _, _, _, _, _, settled'⟩ := settled_of_follow? expanded complete reached'
      exact settled' symbol id linked

/-- An entity of a complete template has a statement about its class. -/
theorem exists_isTyping (expanded : Expands setting t row [] none result)
    (complete : t.Everywhere Template.IsComplete) (language : Language) (h : result.HasEntity id) :
    ∃ typing, result.IsTyping language typing ∧
      typing.subject = language.vocabulary.resource id := by
  obtain ⟨chain, inner, entity, reached, member, rfl⟩ := h
  obtain ⟨t', row', inherited, element, _, complete', expands, _⟩ :=
    settled_of_follow? expanded complete reached
  exact ⟨_, ⟨chain, inner, entity, reached, member, expands.typed complete'.here member, rfl⟩, rfl⟩

end Settled

/-! ### Links of a row -/

/-- Every repetition links a symbol that its subtemplate declares. -/
def Template.DeclaresLinked (t : Template) : Prop :=
  ∀ branch symbol iteration inner, t.branch? branch = some (symbol, iteration, inner) →
    symbol ∈ inner.symbols

theorem Template.Everywhere.of_follow? {property : Template → Prop} {t inner : Template}
    {chain : List Branch} (h : t.Everywhere property) (followed : t.follow? chain = some inner) :
    inner.Everywhere property := by
  induction chain generalizing t with
  | nil =>
      cases followed
      exact h
  | cons branch chain ih =>
      obtain ⟨⟨symbol, iteration, middle⟩, found, followed⟩ := Option.bind_eq_some_iff.mp followed
      exact ih (h.of_branch? found) followed

theorem not_linksUndeclared {t : Template} {result : Scope} {id : String}
    (declares : t.Everywhere Template.DeclaresLinked) : ¬result.LinksUndeclared t id := by
  rintro ⟨chain, t', _, branch, symbol, iteration, inner, _, followed, _, branchAt, _, new⟩
  exact new ((declares.of_follow? followed).here branch symbol iteration inner branchAt)

/-- A row that can be expanded has a tree of entities, and what it comes to is read off the tree. -/
theorem exists_scope_of_expandRow {setting : Setting} {t : Template} {header : Header}
    {cells : List Datum} {progress : Progress} {expansion : Expansion}
    (done : (expandRow setting t header cells progress).1 = .ok expansion) :
    ∃ result progress', Expanding.Yields (Expanding.row setting t header cells) progress result
      progress' ∧ expansion = result.expansion setting.language := by
  unfold expandRow at done
  split at done
  next outcome progress' run =>
    cases outcome with
    | error cause => cases done
    | ok result =>
        cases done
        exact ⟨result, progress', run, rfl⟩

/-- When the links of a row lead to entities. In the modes in which content decides they always do,
and so they do if every repetition links a symbol that its subtemplate declares. Otherwise it is a
matter of the single link: it leads to an entity exactly if, should its identifier be that of a
repetition which links another symbol, some entity has that identifier as well. -/
theorem links_resolve_iff (setting : Setting) (t : Template) (header : Header) (cells : List Datum)
    (progress : Progress) (expansion : Expansion) (loaded : t.IsLoaded)
    (done : (expandRow setting t header cells progress).1 = .ok expansion) :
    ∃ result progress',
      (Expanding.row setting t header cells).run progress = (.ok result, progress') ∧
      expansion = result.expansion setting.language ∧
      (setting.mode.isDeterministic = true ∨ t.Everywhere Template.DeclaresLinked →
        result.LinksResolve setting.language) ∧
      ∀ link, result.IsLink setting.language link →
        (result.Resolves setting.language link ↔
          (setting.mode.isDeterministic = false → ∀ id, result.LinksUndeclared t id →
            link.object = setting.language.vocabulary.resource id →
            ∃ id', result.HasEntity id' ∧ setting.language.vocabulary.resource id' =
              setting.language.vocabulary.resource id)) := by
  obtain ⟨result, progress', yields, rfl⟩ := exists_scope_of_expandRow done
  have expanded : Expanding.Expands setting t { header, cells } [] none result :=
    ⟨progress, progress', yields⟩
  have resolves (link : Statement) (isLink : result.IsLink setting.language link)
      (undeclared : setting.mode.isDeterministic = false → ∀ id, result.LinksUndeclared t id →
        link.object = setting.language.vocabulary.resource id →
        ∃ id', result.HasEntity id' ∧ setting.language.vocabulary.resource id' =
          setting.language.vocabulary.resource id) : result.Resolves setting.language link := by
    obtain ⟨id, object, settled⟩ := settled_of_isLink expanded loaded.complete isLink
    obtain ⟨id', hasEntity, same⟩ : ∃ id', result.HasEntity id' ∧
        setting.language.vocabulary.resource id' = setting.language.vocabulary.resource id := by
      rcases settled with hasEntity | ⟨mode, links⟩
      · exact ⟨id, hasEntity, rfl⟩
      · exact undeclared mode id links object
    obtain ⟨typing, isTyping, subject⟩ :=
      exists_isTyping expanded loaded.complete setting.language hasEntity
    exact ⟨typing, isTyping.mem, isTyping, subject.trans (same.trans object.symm)⟩
  refine ⟨result, progress', yields, rfl, ?_, fun link isLink => ⟨?_, resolves link isLink⟩⟩
  · intro sound link isLink
    refine ⟨isLink.mem, resolves link isLink fun mode id links => ?_⟩
    rcases sound with deterministic | declares
    · simp [mode] at deterministic
    · exact absurd links (not_linksUndeclared declares)
  · rintro ⟨_, _, ⟨chain, inner, entity, reached, member, _, rfl⟩, subject⟩ _ id _ object
    exact ⟨entity.id, ⟨chain, inner, entity, reached, member, rfl⟩, subject.trans object⟩

/-! ### Owners with their pets, once more -/

/-- A setting in which identifiers are chosen anew for every row. -/
def recordSetting : Setting :=
  { globalSetting with mode := .none }

theorem kennelTemplate_declaresLinked : kennelTemplate.Everywhere Template.DeclaresLinked := by
  refine .intro ?_ ?_
  · intro branch symbol iteration inner found
    obtain ⟨entry, name, predicates, entryAt, ruleAt, part⟩ := Template.branch?_eq_some_iff.mp found
    have member := List.mem_of_getElem? entryAt
    simp only [kennelTemplate, List.mem_singleton] at member
    subst member
    have ruleMember := List.mem_of_getElem? ruleAt
    simp only [List.mem_cons, Rule.mk.injEq, reduceCtorEq, false_and, Target.repeated.injEq,
      List.not_mem_nil, or_false, false_or] at ruleMember
    obtain ⟨⟨rfl, rfl⟩, rfl⟩ := ruleMember
    cases part
    decide
  · simp only [kennelTemplate, List.mem_singleton, forall_eq]
    refine .intro ?_ (by simp [petTemplate])
    intro branch symbol iteration inner found
    obtain ⟨_, _, _, _, _, part⟩ := Template.branch?_eq_some_iff.mp found
    cases part

theorem links_resolve_iff_kennel :
    kennelTemplate.IsLoaded ∧ ∃ expansion,
      (expandRow recordSetting kennelTemplate ⟨["name", "pets"]⟩
        [.text "Ada", .list [.text "Rex", .text "Tom"]] {}).1 = .ok expansion ∧
      ∃ result : Scope, expansion = result.expansion recordSetting.language ∧
        result.LinksResolve recordSetting.language := by
  have loaded : kennelTemplate.IsLoaded := ⟨true, kennelDocument, rfl⟩
  have done : ∃ expansion, (expandRow recordSetting kennelTemplate ⟨["name", "pets"]⟩
      [.text "Ada", .list [.text "Rex", .text "Tom"]] {}).1 = .ok expansion := ⟨_, rfl⟩
  obtain ⟨expansion, done⟩ := done
  obtain ⟨result, _, _, same, resolves, _⟩ :=
    links_resolve_iff recordSetting kennelTemplate _ _ {} expansion loaded done
  exact ⟨loaded, expansion, done, result, same, resolves (.inr kennelTemplate_declaresLinked)⟩

/-- The owner of pets who links, for every pet, to a ghost that nothing declares. -/
def strayDocument : Document :=
  .map [("TEMPLATE", .sequence [.sequence [.text "Owner", .map [("GENSYM", .text "owner"),
      ("SUBTEMPLATE_pets.GENSYM_ghost", .text "keeps")]]]),
    ("SUBTEMPLATES", .map [("pets", .map [
      ("TEMPLATE", .sequence [.sequence [.text "Pet", .map [("GENSYM", .text "pet"),
        ("GENSYM_owner", .text "keptBy")]]]),
      ("ITERABLE", .sequence [.sequence [.text "pets", .text "pet"]])])])]

def strayTemplate : Template :=
  ⟨[⟨"Owner", "owner", [⟨.type, []⟩, ⟨.repeated "pets" "ghost", ["keeps"]⟩]⟩],
    [("pets", ⟨"pets", "pet"⟩, petTemplate)], [], {}⟩

def strayScope : Scope :=
  .mk [("owner", "0")] []
    [.mk "0" "Owner" [.type, .repeated ["keeps"]
      [("1", .mk [("owner", "0"), ("ghost", "1"), ("pet", "2")] []
        [.mk "2" "Pet" [.type, .link ["keptBy"] "0"]])]]]

/-- The row of the owner expands, and the link to the ghost leads nowhere. -/
theorem not_linksResolve_stray :
    strayTemplate.IsLoaded ∧
    (Expanding.row recordSetting strayTemplate ⟨["pets"]⟩ [.text "Rex"]).run {} =
      (.ok strayScope, ⟨3, []⟩) ∧
    ¬strayScope.LinksResolve recordSetting.language := by
  refine ⟨⟨true, strayDocument, rfl⟩, rfl, ?_⟩
  intro resolve
  have isLink : strayScope.IsLink recordSetting.language
      ⟨"<http://schema.localhost/0>", "<http://schema.localhost/keeps>",
        "<http://schema.localhost/1>"⟩ := by
    refine ⟨[], strayScope, _, _, ["keeps"], "1", rfl, List.mem_singleton_self _,
      List.mem_cons_of_mem _ (List.mem_singleton_self _),
      .repeated (List.mem_singleton_self _), ?_⟩
    decide +kernel
  obtain ⟨_, typing, member, ⟨_, _, _, _, _, _, rfl⟩, subject⟩ := resolve _ isLink
  have untyped : ∀ statement ∈ strayScope.statements recordSetting.language,
      statement.predicate = iriToken rdfType →
        statement.subject ≠ "<http://schema.localhost/1>" := by
    decide +kernel
  exact untyped _ member rfl subject

end RowTriples
