import Mathlib.Algebra.GroupWithZero.Nat
import Mathlib.Data.List.Perm.Lattice
import RowTriples.Proofs.Entity.Sites
import RowTriples.Proofs.Entity.Written
import RowTriples.Proofs.NTriples.Grammar
import RowTriples.Proofs.Template.Typed
/-!
# One class statement for every entity

How many entities a row has is a matter of the template and of the columns that it is repeated for:
every entry is instantiated once in each scope of the row, whatever identifiers it gets. If no rule
lists the predicate of classes among its own, the statements with this predicate are those that tell
the class of an entity, one for each. What a geocoder contributes never has this predicate.
-/

namespace RowTriples

open Expanding NTriples

/-! ### The predicate of classes -/

/-- No byte is percent-encoded by a number sign. -/
theorem numberSign_notMem_percentEncoded (name : String) :
    '#' ∉ (percentEncoded name).toList := by
  have each : ∀ n < 256, '#' ∉ encodeByte (UInt8.ofNat n) := by
    decide +kernel
  rw [percentEncoded, String.toList_ofList]
  intro member
  obtain ⟨b, _, member⟩ := List.mem_flatMap.mp member
  have here := each b.toNat b.toNat_lt
  rw [UInt8.ofNat_toNat] at here
  exact here member

/-- A bare name is never that of the predicate of classes, whatever the namespace is: behind each
slash of that IRI there is a number sign. -/
theorem resource_eq_rdfType_iff {vocabulary : Vocabulary} {name : String} :
    vocabulary.resource name = iriToken rdfType ↔ name = rdfType := by
  constructor
  · intro same
    unfold Vocabulary.resource at same
    split at same
    · exact iriToken_injective same
    · have same := congrArg String.toList (iriToken_injective same)
      have type : rdfType.toList = "http://www.w3.org/1999/02/22-rdf-syntax-ns".toList ++
          '#' :: "type".toList := by decide +kernel
      rw [String.toList_append, String.toList_append, type, List.append_assoc] at same
      have encoded := numberSign_notMem_percentEncoded name
      rcases List.append_eq_append_iff.mp same with ⟨middle, _, later⟩ | ⟨middle, _, later⟩
      · have member : '#' ∈ "/".toList ++ (percentEncoded name).toList := by
          rw [later]
          simp
        simp [encoded] at member
      · have member : '/' ∈ '#' :: "type".toList := by
          rw [later]
          simp
        exact absurd member (by decide)
  · rintro rfl
    exact resource_rdfType vocabulary

/-! ### The scopes of a row -/

def Fact.occurrences : Fact → List (String × Scope)
  | .repeated _ occurrences => occurrences
  | _ => []

namespace Scope

def facts (result : Scope) : List Fact :=
  result.entities.flatMap Entity.facts

def occurrences (result : Scope) : List (String × Scope) :=
  result.facts.flatMap Fact.occurrences

theorem mem_occurrences_iff {result : Scope} {occurrence : String × Scope} :
    occurrence ∈ result.occurrences ↔ ∃ entity ∈ result.entities, ∃ predicates occurrences,
      .repeated predicates occurrences ∈ entity.facts ∧ occurrence ∈ occurrences := by
  simp only [occurrences, facts, List.mem_flatMap]
  constructor
  · rintro ⟨fact, ⟨entity, entityMember, factMember⟩, member⟩
    cases fact with
    | repeated predicates occurrences =>
        exact ⟨entity, entityMember, predicates, occurrences, factMember, member⟩
    | type => cases member
    | link => cases member
    | values => cases member
  · rintro ⟨entity, entityMember, predicates, occurrences, factMember, member⟩
    exact ⟨_, ⟨entity, entityMember, factMember⟩, member⟩

theorem sizeOf_lt_of_mem_occurrences {result : Scope} {occurrence : String × Scope}
    (member : occurrence ∈ result.occurrences) : sizeOf occurrence.2 < sizeOf result := by
  obtain ⟨entity, entityMember, _, _, factMember, member⟩ := mem_occurrences_iff.mp member
  exact sizeOf_lt_of_occurrence entityMember factMember member

/-- The scopes of a row: the scope itself, and then those of each of its repetitions. -/
def scopes (result : Scope) : List Scope :=
  result :: result.occurrences.attach.flatMap fun occurrence => scopes occurrence.1.2
termination_by sizeOf result
decreasing_by exact sizeOf_lt_of_mem_occurrences occurrence.2

theorem scopes_eq (result : Scope) :
    result.scopes = result :: result.occurrences.flatMap fun occurrence => occurrence.2.scopes := by
  have each (occurrence : String × Scope) (_ : occurrence ∈ result.occurrences) :
      occurrence.2.scopes = occurrence.2.scopes := rfl
  rw [scopes, List.flatMap_subtype each, List.unattach_attach]

/-- The scopes of a row are those that chains of repetitions lead to. -/
theorem mem_scopes_iff {result scope : Scope} :
    scope ∈ result.scopes ↔ ∃ chain, result.follow? chain = some scope := by
  constructor
  · intro member
    rw [scopes_eq, List.mem_cons, List.mem_flatMap] at member
    rcases member with rfl | ⟨occurrence, listed, member⟩
    · exact ⟨[], rfl⟩
    · obtain ⟨chain, reached⟩ := mem_scopes_iff.mp member
      obtain ⟨entity, entityMember, _, _, factMember, inside⟩ := mem_occurrences_iff.mp listed
      obtain ⟨branch, step⟩ := exists_branch?_of_mem entityMember factMember inside
      exact ⟨branch :: chain, Option.bind_eq_some_iff.mpr ⟨_, step, reached⟩⟩
  · rintro ⟨chain, reached⟩
    induction chain generalizing result with
    | nil =>
        cases reached
        rw [scopes_eq]
        exact List.mem_cons_self
    | cons branch chain ih =>
        obtain ⟨occurrence, step, reached⟩ := Option.bind_eq_some_iff.mp reached
        obtain ⟨entity, predicates, occurrences, entityAt, factAt, occurrenceAt⟩ :=
          branch?_eq_some_iff.mp step
        have listed : occurrence ∈ result.occurrences :=
          mem_occurrences_iff.mpr ⟨entity, List.mem_of_getElem? entityAt, predicates, occurrences,
            List.mem_of_getElem? factAt, List.mem_of_getElem? occurrenceAt⟩
        rw [scopes_eq, List.mem_cons, List.mem_flatMap]
        exact .inr ⟨occurrence, listed, ih reached⟩
termination_by sizeOf result
decreasing_by exact sizeOf_lt_of_mem_occurrences listed

end Scope

/-! ### The number of instances -/

/-- The number of instances in the repetitions for the elements of a column, given that of a
subtemplate for its row. -/
def Row.elementInstances (row : Row) : Option (Iteration × (Row → Nat)) → Nat
  | none => 0
  | some (iteration, count) => ((row.values iteration.source).map fun element =>
      count (row.bind iteration.variableName element .iteration)).sum

namespace Template

mutual

/-- The number of instances of entries that a template has for a row: one of each of its own
entries, and for each of its rules that repeats a subtemplate those of the subtemplate for every
element. -/
def instances : Template → Row → Nat
  | ⟨entries, subtemplates, bindings, _⟩, row =>
    entries.length + ((entries.flatMap Entry.rules).map fun rule =>
      match rule.target with
      | .repeated name _ =>
        (row.derive bindings).elementInstances ((instancesOf subtemplates).lookup name)
      | _ => 0).sum

def instancesOf : List (String × Iteration × Template) → List (String × Iteration × (Row → Nat))
  | [] => []
  | (name, iteration, inner) :: others => (name, iteration, instances inner) :: instancesOf others

end

theorem lookup_instancesOf (subtemplates : List (String × Iteration × Template)) (name : String) :
    (instancesOf subtemplates).lookup name =
      (subtemplates.lookup name).map fun part => (part.1, part.2.instances) := by
  induction subtemplates with
  | nil => rfl
  | cons head subtemplates ih =>
      obtain ⟨key, iteration, inner⟩ := head
      simp only [instancesOf, List.lookup_cons]
      split
      · rfl
      · exact ih

end Template

namespace Scope

def allEntities (result : Scope) : List Entity :=
  result.scopes.flatMap Scope.entities

theorem allEntities_eq (result : Scope) :
    result.allEntities =
      result.entities ++ result.occurrences.flatMap fun occurrence => occurrence.2.allEntities := by
  rw [allEntities, scopes_eq, List.flatMap_cons, List.flatMap_assoc]
  rfl

end Scope

section Instances

variable {setting : Setting} {t : Template} {row : Row} {inherited : Identifiers}
variable {element : Option Nat} {result : Scope}

/-- The facts of a scope are what the rules of its template become. -/
theorem Expanding.Expands.facts (h : Expands setting t row inherited element result) :
    List.Forall₂ (Becomes setting t.options (row.derive t.bindings) result.identifiers
      (subtemplatesOf setting t.subtemplates)) (t.entries.flatMap Entry.rules) result.facts :=
  List.rel_flatMap h.run.2 fun _ _ instantiates => instantiates.facts

/-- What is counted in the repetitions of facts is counted rule by rule. -/
theorem sum_occurrences {rel : Rule → Fact → Prop} {rules : List Rule} {facts : List Fact}
    {size : String × Scope → Nat} {count : Rule → Nat} (h : List.Forall₂ rel rules facts)
    (counted : ∀ rule fact, rel rule fact → (fact.occurrences.map size).sum = count rule) :
    ((facts.flatMap Fact.occurrences).map size).sum = (rules.map count).sum := by
  induction h with
  | nil => rfl
  | cons first _ ih =>
      rw [List.flatMap_cons, List.map_append, List.sum_append, List.map_cons, List.sum_cons,
        counted _ _ first, ih]

/-- Elements and their repetitions are counted alike. -/
theorem sum_elements {symbol variableName : String} {inner : Template} {options : Options}
    {ids : Identifiers} {i : Nat} {values : List Datum} {occurrences : List (String × Scope)}
    (h : List.Forall₂ (Repeats setting options row ids symbol variableName (template setting inner))
      (values.zipIdx i) occurrences)
    (inside : ∀ {row inherited element result}, Expands setting inner row inherited element result →
      result.allEntities.length = inner.instances row) :
    (occurrences.map fun occurrence => occurrence.2.allEntities.length).sum =
      (values.map fun value => inner.instances (row.bind variableName value .iteration)).sum := by
  induction values generalizing i occurrences with
  | nil =>
      cases h
      rfl
  | cons value values ih =>
      rw [List.zipIdx_cons] at h
      cases h with
      | cons first others =>
          obtain ⟨_, _, _, expanded⟩ := first
          rw [List.map_cons, List.sum_cons, List.map_cons, List.sum_cons, ih others,
            inside expanded]

/-- A row has as many entities as its template has instances of entries. -/
theorem length_allEntities (h : Expands setting t row inherited element result) :
    result.allEntities.length = t.instances row := by
  induction t using Template.nested generalizing row inherited element result with
  | step t inside =>
      have own : result.entities.length = t.entries.length := h.run.2.length_eq.symm
      have each := h.facts
      rw [Scope.allEntities_eq, List.length_append, List.length_flatMap, own, Scope.occurrences]
      obtain ⟨entries, subtemplates, bindings, options⟩ := t
      rw [Template.instances]
      congr 1
      apply sum_occurrences each
      intro rule fact becomes
      obtain ⟨target, predicates⟩ := rule
      cases target with
      | repeated name symbol =>
          obtain ⟨iteration, inner, occurrences, part, rfl, repeats⟩ := becomes.of_rule
          simp only [Template.lookup_instancesOf, part, Option.map_some, Row.elementInstances]
          exact sum_elements repeats (inside _ (mem_of_lookup part))
      | type =>
          cases becomes
          rfl
      | column name =>
          cases becomes
          rfl
      | symbol name =>
          cases becomes
          rfl

end Instances

/-! ### Class statements -/

def Statement.isTyping (s : Statement) : Bool :=
  s.predicate = iriToken rdfType

def Entity.typing (language : Language) (entity : Entity) : Statement :=
  ⟨language.vocabulary.resource entity.id, iriToken rdfType,
    language.vocabulary.resource entity.type⟩

def Fact.typingsInside (language : Language) (fact : Fact) : List Statement :=
  fact.occurrences.flatMap fun occurrence =>
    occurrence.2.allEntities.map (Entity.typing language)

/-- In each scope of the repetitions one statement is about the class of each entity. -/
def Fact.TypesInside (language : Language) (fact : Fact) : Prop :=
  ∀ occurrence ∈ fact.occurrences,
    ((occurrence.2.statements language).filter Statement.isTyping).Perm
      (occurrence.2.allEntities.map (Entity.typing language))

/-- No rule of the template lists the predicate of classes. -/
def Template.ListsNoType (t : Template) : Prop :=
  ∀ entry ∈ t.entries, ∀ rule ∈ entry.rules, rdfType ∉ rule.predicates

instance (t : Template) : Decidable t.ListsNoType :=
  inferInstanceAs (Decidable (∀ entry ∈ t.entries, ∀ rule ∈ entry.rules, rdfType ∉ rule.predicates))

def Fact.isType : Fact → Bool
  | .type => true
  | _ => false

section Typings

variable {language : Language} {predicates : List String}

theorem filter_relate (unlisted : rdfType ∉ predicates) (subject object : String) :
    (language.relate subject predicates object).filter Statement.isTyping = [] := by
  rw [List.filter_eq_nil_iff]
  intro s member isTyping
  obtain ⟨predicate, listed, rfl⟩ := List.mem_map.mp member
  obtain rfl := resource_eq_rdfType_iff.mp (of_decide_eq_true isTyping)
  exact unlisted listed

theorem filter_assertValues (unlisted : rdfType ∉ predicates) (subject : String)
    (values : List Datum) :
    (language.assertValues subject predicates values).filter Statement.isTyping = [] := by
  rw [List.filter_eq_nil_iff]
  intro s member isTyping
  obtain ⟨predicate, listed, member⟩ := List.mem_flatMap.mp member
  obtain ⟨value, _, told⟩ := List.mem_filterMap.mp member
  split at told
  · cases told
    obtain rfl := resource_eq_rdfType_iff.mp (of_decide_eq_true isTyping)
    exact unlisted listed
  · cases told

/-- A geocoder says nothing about classes. -/
theorem not_isTyping_of_mem_candidates {lookup : Lookup} {s : Statement}
    (offered : s ∈ lookup.candidates language) : s.isTyping = false := by
  have named : ∃ predicate, predicate ≠ rdfType ∧
      s.predicate = language.vocabulary.resource predicate := by
    have parts : ∀ part ∈ Feature.addressParts, part.2 ≠ rdfType := by decide +kernel
    obtain ⟨feature, _, told⟩ := exists_match_of_offered offered
    cases told with
    | fullText _ => exact ⟨Address.fullText, by decide, rfl⟩
    | @part _ predicate _ listed _ => exact ⟨predicate, parts _ listed, rfl⟩
    | point _ _ => exact ⟨Address.geoPoint, by decide, rfl⟩
  obtain ⟨predicate, other, same⟩ := named
  rw [Statement.isTyping, same]
  exact decide_eq_false fun isType => other (resource_eq_rdfType_iff.mp isType)

variable {setting : Setting} {options : Options} {row : Row} {ids : Identifiers} {parts : Parts}

/-- One fact is about a class for each rule that is. -/
theorem countP_isType {rules : List Rule} {facts : List Fact}
    (h : List.Forall₂ (Becomes setting options row ids parts) rules facts) :
    facts.countP Fact.isType = rules.countP (·.target = .type) := by
  induction h with
  | nil => rfl
  | cons first _ ih =>
      rw [List.countP_cons, List.countP_cons, ih]
      cases first <;> rfl

/-- The class statements of a fact: its own, if it has one, and those of its repetitions. -/
theorem perm_filter_fact {rule : Rule} {fact : Fact} {id type : String}
    (becomes : Becomes setting options row ids parts rule fact)
    (unlisted : rdfType ∉ rule.predicates) (inside : fact.TypesInside language) :
    ((fact.statements language (language.vocabulary.resource id) type).filter
      Statement.isTyping).Perm
      ((if fact.isType then [Entity.typing language (.mk id type [])] else []) ++
        fact.typingsInside language) := by
  cases becomes with
  | type =>
      have typed : Statement.isTyping (Entity.typing language (.mk id type [])) = true :=
        decide_eq_true rfl
      show ([Entity.typing language (.mk id type [])].filter Statement.isTyping).Perm _
      rw [List.filter_cons_of_pos typed]
      exact .refl _
  | link known =>
      rw [Fact.statements, filter_relate unlisted]
      exact .refl _
  | values =>
      rw [Fact.statements, filter_assertValues unlisted]
      exact .refl _
  | repeated part repeats =>
      rw [Fact.statements, statementsOfOccurrences_eq, List.filter_flatMap]
      apply List.Perm.flatMap_left
      intro occurrence member
      rw [List.filter_append, filter_relate unlisted, List.nil_append]
      exact inside occurrence member

theorem flatMap_isType (typing : Statement) (facts : List Fact) :
    (facts.flatMap fun fact => if fact.isType then [typing] else []) =
      List.replicate (facts.countP Fact.isType) typing := by
  induction facts with
  | nil => rfl
  | cons fact facts ih =>
      rw [List.flatMap_cons, ih, List.countP_cons]
      cases fact.isType with
      | true => exact (List.replicate_succ ..).symm
      | false => rfl

/-- The class statements of an entity: its own, and those of its repetitions. -/
theorem perm_filter_entity {entry : Entry} {entity : Entity}
    (instantiates : Instantiates setting options row ids parts entry entity)
    (typed : entry.rules.countP (·.target = .type) = 1)
    (unlisted : ∀ rule ∈ entry.rules, rdfType ∉ rule.predicates)
    (inside : ∀ fact ∈ entity.facts, fact.TypesInside language) :
    ((entity.statements language).filter Statement.isTyping).Perm
      (entity.typing language :: entity.facts.flatMap (Fact.typingsInside language)) := by
  obtain ⟨id, type, facts⟩ := entity
  have once : facts.countP Fact.isType = 1 := (countP_isType instantiates.facts).trans typed
  have each : ∀ fact ∈ facts,
      ((fact.statements language (language.vocabulary.resource id) type).filter
        Statement.isTyping).Perm
        ((if fact.isType then [Entity.typing language (.mk id type [])] else []) ++
          fact.typingsInside language) := by
    intro fact member
    obtain ⟨rule, ruleMember, becomes⟩ := exists_of_mem_right instantiates.facts member
    exact perm_filter_fact becomes (unlisted rule ruleMember) (inside fact member)
  rw [Entity.statements_eq, List.filter_flatMap]
  refine (List.Perm.flatMap_left facts each).trans ?_
  refine (List.flatMap_append_perm facts _ _).symm.trans ?_
  rw [flatMap_isType, once]
  exact .refl _

end Typings

section Rows

variable {setting : Setting} {t : Template} {row : Row} {inherited : Identifiers}
variable {element : Option Nat} {result : Scope}

/-- By induction on the template: one statement of a scope is about the class of each entity, of its
own and of its repetitions. -/
theorem perm_filter_statements (language : Language) (typed : t.Everywhere Template.TypesOnce)
    (unlisted : t.Everywhere Template.ListsNoType)
    (h : Expands setting t row inherited element result) :
    ((result.statements language).filter Statement.isTyping).Perm
      (result.allEntities.map (Entity.typing language)) := by
  induction t using Template.nested generalizing row inherited element result with
  | step t inside =>
      have nested : ∀ fact ∈ result.facts, fact.TypesInside language := by
        intro fact factMember occurrence member
        obtain ⟨rule, _, becomes⟩ := exists_of_mem_right h.facts factMember
        cases fact with
        | repeated predicates occurrences =>
            obtain ⟨name, symbol, iteration, inner, _, part, repeats⟩ := becomes.of_fact
            obtain ⟨_, _, _, _, _, _, _, expanded⟩ := exists_of_mem_right repeats member
            exact inside _ (mem_of_lookup part) (typed.of_lookup part) (unlisted.of_lookup part)
              ⟨_, _, expanded⟩
        | type => cases member
        | link => cases member
        | values => cases member
      have each : ∀ entity ∈ result.entities,
          ((entity.statements language).filter Statement.isTyping).Perm
            ([entity.typing language] ++ entity.facts.flatMap (Fact.typingsInside language)) := by
        intro entity member
        obtain ⟨entry, entryMember, instantiates⟩ := exists_of_mem_right h.run.2 member
        apply perm_filter_entity instantiates (typed.here entry entryMember)
          (unlisted.here entry entryMember)
        intro fact factMember
        exact nested fact (List.mem_flatMap.mpr ⟨entity, member, factMember⟩)
      have looked : (result.lookupStatements language).filter Statement.isTyping = [] := by
        rw [List.filter_eq_nil_iff]
        intro addition added isTyping
        obtain ⟨lookup, _, offered⟩ := List.mem_flatMap.mp (free_of_mem_additions added).1
        rw [not_isTyping_of_mem_candidates offered] at isTyping
        cases isTyping
      have together : result.entities.flatMap (fun entity => [entity.typing language]) ++
          result.entities.flatMap (fun entity =>
            entity.facts.flatMap (Fact.typingsInside language)) =
          result.allEntities.map (Entity.typing language) := by
        rw [Scope.allEntities_eq, List.map_append, List.map_eq_flatMap]
        simp only [Scope.occurrences, Scope.facts, List.flatMap_assoc, List.map_flatMap]
        rfl
      rw [Scope.statements_eq, List.filter_append, looked, List.append_nil, Scope.ruleStatements,
        List.filter_flatMap, ← together]
      refine (List.Perm.flatMap_left result.entities each).trans ?_
      exact (List.flatMap_append_perm result.entities _ _).symm

end Rows

/-- A row has one class statement for every instance of an entry. If no rule of a loaded template
lists the predicate of classes, the statements with this predicate are as many as the instances that
the template has for the row, with any geocoder: one for each entity of each scope, about the
identifier of the entity and its class. The scopes are those that chains of repetitions lead to, and
the entities of a scope are the entries of its template, under the identifiers of their symbols. -/
theorem one_typing_per_instance (setting : Setting) (t : Template) (header : Header)
    (cells : List Datum) (progress : Progress) (expansion : Expansion) (loaded : t.IsLoaded)
    (unlisted : t.Everywhere Template.ListsNoType)
    (done : (expandRow setting t header cells progress).1 = .ok expansion) :
    ∃ result progress',
      (Expanding.row setting t header cells).run progress = (.ok result, progress') ∧
      expansion = result.expansion setting.language ∧
      let typings := expansion.statements.filter Statement.isTyping
      typings.length = t.instances { header, cells } ∧
      typings.Perm (result.scopes.flatMap fun scope =>
        scope.entities.map (Entity.typing setting.language)) ∧
      (∀ scope, scope ∈ result.scopes ↔ ∃ chain, result.follow? chain = some scope) ∧
      ∀ chain scope, result.follow? chain = some scope →
        ∃ site, (Site.root t { header, cells }).follow? chain = some site ∧
          List.Forall₂ (fun entry entity => entity.type = entry.type ∧
            Entries.get? entry.symbol scope.identifiers = some entity.id)
            site.template.entries scope.entities := by
  obtain ⟨result, progress', yields, rfl⟩ := exists_scope_of_expandRow done
  have expanded : Expands setting t { header, cells } [] none result :=
    ⟨progress, progress', yields⟩
  have typings := perm_filter_statements setting.language loaded.typesOnce unlisted expanded
  refine ⟨result, progress', yields, rfl, ?_, ?_, fun scope => Scope.mem_scopes_iff, ?_⟩
  · have length := typings.length_eq
    rwa [List.length_map, length_allEntities expanded] at length
  · rwa [Scope.allEntities, List.map_flatMap] at typings
  · intro chain scope reached
    obtain ⟨site, _, leads, matched⟩ := (Site.Matches.root expanded).exists_site reached
    refine ⟨site, leads, matched.expands.run.2.imp ?_⟩
    intro entry entity instantiates
    exact ⟨instantiates.type, instantiates.id⟩

/-- The row of a kennel with two pets has three entities. -/
theorem one_typing_per_instance_kennel :
    kennelTemplate.IsLoaded ∧ kennelTemplate.Everywhere Template.ListsNoType ∧ ∃ expansion,
      (expandRow recordSetting kennelTemplate ⟨["name", "pets"]⟩
        [.text "Ada", .list [.text "Rex", .text "Tom"]] {}).1 = .ok expansion ∧
      (expansion.statements.filter Statement.isTyping).length = 3 := by
  have loaded : kennelTemplate.IsLoaded := ⟨true, kennelDocument, rfl⟩
  have unlisted : kennelTemplate.Everywhere Template.ListsNoType := by
    have outer : kennelTemplate.ListsNoType := by decide
    have inner : petTemplate.ListsNoType := by decide
    refine .intro outer ?_
    intro part member
    obtain rfl := List.mem_singleton.mp member
    exact .intro inner nofun
  have done : ∃ expansion, (expandRow recordSetting kennelTemplate ⟨["name", "pets"]⟩
      [.text "Ada", .list [.text "Rex", .text "Tom"]] {}).1 = .ok expansion := ⟨_, rfl⟩
  obtain ⟨expansion, done⟩ := done
  obtain ⟨_, _, _, rfl, count, _⟩ := one_typing_per_instance recordSetting kennelTemplate _ _ {}
    expansion loaded unlisted done
  exact ⟨loaded, unlisted, _, done, count⟩

end RowTriples
