import RowTriples.Proofs.Entity.Census
import RowTriples.Proofs.Entity.Geocoding
/-!
# Every column value is accounted for

How many values the column rules of a row have can be told from the template and the columns: one
for each predicate of the rule and each value of its column that is not empty. Each of them comes
either to a statement or to a diagnostic about a skipped value, never to both and never to neither,
whatever the scope is and however deep it is nested.
-/

namespace RowTriples

open Expanding

/-! ### Values of column rules -/

/-- A value that a column rule means to state of a subject by one of its predicates. -/
structure ColumnValue where
  subject : String
  predicate : String
  value : Datum

namespace ColumnValue

variable (language : Language) (v : ColumnValue)

/-- The statement of a value that has a literal. -/
def statement? : Option Statement :=
  match language.literal v.predicate v.value with
  | .ok object => some ⟨v.subject, language.vocabulary.resource v.predicate, object⟩
  | .error _ => none

/-- The diagnostic of a value that has no literal. -/
def skip? : Option Diagnostic :=
  match language.literal v.predicate v.value with
  | .ok _ => none
  | .error error => some (.skippedValue v.subject error)

def ofValues (subject : String) (predicates : List String) (values : List Datum) :
    List ColumnValue :=
  predicates.flatMap fun predicate => values.map fun value => ⟨subject, predicate, value⟩

end ColumnValue

/-- The number of values of a column that are not empty: as many as a list has items that are not
empty, and one if any other value is not empty. -/
def Row.valueCount (row : Row) (name : String) : Nat :=
  match row.get? name with
  | none => 0
  | some (.list items) => items.countP fun item => !item.isEmpty
  | some value => if value.isEmpty then 0 else 1

namespace Rule

variable (rule : Rule) (row : Row)

/-- The number of values of a column rule: that of its predicates times that of the values of its
column. Other rules have none. -/
def columnValueCount : Nat :=
  match rule.target with
  | .column name => rule.predicates.length * row.valueCount name
  | _ => 0

def columnValues (subject : String) : List ColumnValue :=
  match rule.target with
  | .column name => ColumnValue.ofValues subject rule.predicates (row.values name)
  | _ => []

end Rule

namespace Site

variable (site : Site)

def columnValueCount : Nat :=
  ((site.template.entries.flatMap Entry.rules).map (·.columnValueCount site.derived)).sum

/-- The values of the column rules of a site, for subjects with the given identifiers. -/
def columnValues (language : Language) (ids : Identifiers) : List ColumnValue :=
  site.template.entries.flatMap fun entry =>
    match Entries.get? entry.symbol ids with
    | some id =>
      entry.rules.flatMap (·.columnValues site.derived (language.vocabulary.resource id))
    | none => []

end Site

section Facts

variable (language : Language) (subject type : String)

def Fact.columnValues : Fact → List ColumnValue
  | .values predicates data => ColumnValue.ofValues subject predicates data
  | _ => []

def Fact.columnStatements : Fact → List Statement
  | .values predicates data => language.assertValues subject predicates data
  | _ => []

/-- The statements of a fact that come neither from a column nor from inside its repetitions. -/
def Fact.otherStatements : Fact → List Statement
  | .type => [⟨subject, iriToken rdfType, language.vocabulary.resource type⟩]
  | .link predicates id => language.relate subject predicates (language.vocabulary.resource id)
  | .values _ _ => []
  | .repeated predicates occurrences => occurrences.flatMap fun occurrence =>
      language.relate subject predicates (language.vocabulary.resource occurrence.1)

def Fact.skips : Fact → List Diagnostic
  | .values predicates data => language.skipValues subject predicates data
  | _ => []

end Facts

/-- A fact with the token and the class of the entity that it is about. -/
structure Sentence where
  subject : String
  type : String
  fact : Fact

namespace Scope

variable (language : Language) (scope : Scope)

/-- What a scope itself says, in order. -/
def sentences : List Sentence :=
  scope.entities.flatMap fun entity => entity.facts.map fun fact =>
    ⟨language.vocabulary.resource entity.id, entity.type, fact⟩

def columnValues : List ColumnValue :=
  (scope.sentences language).flatMap fun s => s.fact.columnValues s.subject

def columnStatements : List Statement :=
  (scope.sentences language).flatMap fun s => s.fact.columnStatements language s.subject

/-- The statements of a scope itself that do not come from column rules: about classes, for links,
and from lookups. -/
def otherStatements : List Statement :=
  (scope.sentences language).flatMap (fun s => s.fact.otherStatements language s.subject s.type) ++
    scope.lookupStatements language

def skips : List Diagnostic :=
  (scope.sentences language).flatMap fun s => s.fact.skips language s.subject

end Scope

/-! ### What a value comes to -/

theorem mapError_eq_error_iff {ε ε' α : Type} {step : Except ε α} {f : ε → ε'} {error : ε'} :
    step.mapError f = .error error ↔ ∃ cause, step = .error cause ∧ f cause = error := by
  cases step <;> simp [Except.mapError]

/-- A value without a literal is reported with the local name of its predicate. -/
theorem property_of_literal_error {language : Language} {predicate : String} {value : Datum}
    {error : CoercionError} (failed : language.literal predicate value = .error error) :
    error.property = language.vocabulary.localName predicate := by
  simp only [Language.literal, Typing.literal] at failed
  split at failed
  all_goals
    obtain ⟨_, _, rfl⟩ := mapError_eq_error_iff.mp failed
    rfl

section Values

variable {language : Language} {subject : String} {predicates : List String} {values : List Datum}

theorem filterMap_statement?_ofValues :
    (ColumnValue.ofValues subject predicates values).filterMap (·.statement? language) =
      language.assertValues subject predicates values := by
  simp only [ColumnValue.ofValues, List.filterMap_flatMap, List.filterMap_map]
  rfl

theorem filterMap_skip?_ofValues :
    (ColumnValue.ofValues subject predicates values).filterMap (·.skip? language) =
      language.skipValues subject predicates values := by
  simp only [ColumnValue.ofValues, List.filterMap_flatMap, List.filterMap_map]
  rfl

theorem length_ofValues :
    (ColumnValue.ofValues subject predicates values).length =
      predicates.length * values.length := by
  simp [ColumnValue.ofValues, List.length_flatMap]

/-- A value has a statement exactly if it has no diagnostic. -/
theorem length_filterMap_add (language : Language) (vs : List ColumnValue) :
    (vs.filterMap (·.statement? language)).length + (vs.filterMap (·.skip? language)).length =
      vs.length := by
  induction vs with
  | nil => rfl
  | cons v vs ih =>
      rw [List.filterMap_cons, List.filterMap_cons, List.length_cons, ← ih]
      unfold ColumnValue.statement? ColumnValue.skip?
      cases language.literal v.predicate v.value <;> grind

theorem isSkippedValue_of_skip? {v : ColumnValue} {diagnostic : Diagnostic}
    (skipped : v.skip? language = some diagnostic) : diagnostic.isSkippedValue = true := by
  unfold ColumnValue.skip? at skipped
  split at skipped <;> cases skipped
  rfl

end Values

theorem Row.length_values (row : Row) (name : String) :
    (row.values name).length = row.valueCount name := by
  unfold Row.values Row.valueCount
  cases row.get? name with
  | none => rfl
  | some value =>
      cases value with
      | list items => exact List.countP_eq_length_filter.symm
      | text s =>
          show ([Datum.text s].filter fun value => !value.isEmpty).length =
            if s.isEmpty then 0 else 1
          have same : (Datum.text s).isEmpty = s.isEmpty := rfl
          rw [List.filter_singleton, same]
          cases s.isEmpty <;> rfl
      | _ => rfl

/-! ### What a scope says -/

section Scopes

variable (language : Language)

/-- What every scope has of its own and in its repetitions, it has in all its scopes. -/
theorem perm_scopes {α : Type} {whole own : Scope → List α}
    (split : ∀ scope, (whole scope).Perm
      (own scope ++ scope.occurrences.flatMap fun occurrence => whole occurrence.2))
    (result : Scope) : (whole result).Perm (result.scopes.flatMap own) := by
  rw [Scope.scopes_eq, List.flatMap_cons, List.flatMap_assoc]
  refine (split result).trans (.append_left _ (List.Perm.flatMap_left _ ?_))
  intro occurrence member
  exact perm_scopes split occurrence.2
termination_by sizeOf result
decreasing_by exact Scope.sizeOf_lt_of_mem_occurrences member

/-- The statements of a fact are those of a column, the others, and those inside its repetitions. -/
theorem Fact.perm_statements (subject type : String) (fact : Fact) :
    (fact.statements language subject type).Perm
      ((fact.columnStatements language subject ++ fact.otherStatements language subject type) ++
        fact.occurrences.flatMap fun occurrence => occurrence.2.statements language) := by
  cases fact with
  | type => exact .refl _
  | link predicates id =>
      simp [Fact.statements, columnStatements, otherStatements, occurrences]
  | values predicates data =>
      simp [Fact.statements, columnStatements, otherStatements, occurrences]
  | repeated predicates occurrences =>
      rw [Fact.statements, statementsOfOccurrences_eq]
      exact (List.flatMap_append_perm occurrences _ _).symm

theorem Fact.diagnostics_eq (subject : String) (fact : Fact) :
    fact.diagnostics language subject = fact.skips language subject ++
      fact.occurrences.flatMap fun occurrence => occurrence.2.diagnostics language := by
  cases fact with
  | values predicates data => simp [Fact.diagnostics, skips, occurrences]
  | repeated predicates occurrences =>
      rw [Fact.diagnostics, diagnosticsOfOccurrences_eq]
      rfl
  | _ => rfl

theorem Fact.filterMap_statement? (subject : String) (fact : Fact) :
    (fact.columnValues subject).filterMap (·.statement? language) =
      fact.columnStatements language subject := by
  cases fact with
  | values predicates data => exact filterMap_statement?_ofValues
  | _ => rfl

theorem Fact.filterMap_skip? (subject : String) (fact : Fact) :
    (fact.columnValues subject).filterMap (·.skip? language) = fact.skips language subject := by
  cases fact with
  | values predicates data => exact filterMap_skip?_ofValues
  | _ => rfl

namespace Scope

variable (scope : Scope)

theorem ruleStatements_eq : scope.ruleStatements language =
    (scope.sentences language).flatMap fun s => s.fact.statements language s.subject s.type := by
  rw [ruleStatements, funext (Entity.statements_eq language)]
  simp only [sentences, List.flatMap_assoc, List.flatMap_map]

theorem occurrences_eq : scope.occurrences =
    (scope.sentences language).flatMap fun s => s.fact.occurrences := by
  simp only [occurrences, facts, sentences, List.flatMap_assoc, List.flatMap_map]

theorem diagnosticsOfRules_eq : scope.entities.flatMap (Entity.diagnostics language) =
    (scope.sentences language).flatMap fun s => s.fact.diagnostics language s.subject := by
  rw [funext (Entity.diagnostics_eq language)]
  simp only [sentences, List.flatMap_assoc, List.flatMap_map]

theorem filterMap_statement?_columnValues :
    (scope.columnValues language).filterMap (·.statement? language) =
      scope.columnStatements language := by
  simp only [columnValues, columnStatements, List.filterMap_flatMap, Fact.filterMap_statement?]

theorem filterMap_skip?_columnValues :
    (scope.columnValues language).filterMap (·.skip? language) = scope.skips language := by
  simp only [columnValues, skips, List.filterMap_flatMap, Fact.filterMap_skip?]

/-- The statements of a scope are those of its column rules, the others of its own, and those of its
repetitions. -/
theorem perm_statements :
    (scope.statements language).Perm
      ((scope.columnStatements language ++ scope.otherStatements language) ++
        scope.occurrences.flatMap fun occurrence => occurrence.2.statements language) := by
  have each := List.Perm.flatMap_left (scope.sentences language) fun s _ =>
    s.fact.perm_statements language s.subject s.type
  have split := each.trans <| (List.flatMap_append_perm _ _ _).symm.trans <|
    (List.flatMap_append_perm _ _ _).symm.append_right _
  rw [statements_eq, ruleStatements_eq, occurrences_eq language, List.flatMap_assoc]
  refine (split.append_right _).trans ?_
  simp only [columnStatements, otherStatements, List.append_assoc]
  exact .append_left _ (.append_left _ List.perm_append_comm)

/-- The diagnostics of a scope about skipped values are those of its column rules and those of its
repetitions. -/
theorem perm_skipped :
    ((scope.diagnostics language).filter Diagnostic.isSkippedValue).Perm
      (scope.skips language ++ scope.occurrences.flatMap fun occurrence =>
        (occurrence.2.diagnostics language).filter Diagnostic.isSkippedValue) := by
  have own : (scope.skips language).filter Diagnostic.isSkippedValue = scope.skips language := by
    rw [← filterMap_skip?_columnValues, List.filter_eq_self]
    intro diagnostic member
    obtain ⟨v, _, skipped⟩ := List.mem_filterMap.mp member
    exact isSkippedValue_of_skip? skipped
  have split := (List.flatMap_append_perm (scope.sentences language)
    (fun s => s.fact.skips language s.subject)
    (fun s => s.fact.occurrences.flatMap fun occurrence => occurrence.2.diagnostics language)).symm
  rw [diagnostics_eq, List.filter_append, filter_isSkippedValue_of_lookups, List.nil_append,
    diagnosticsOfRules_eq]
  simp only [Fact.diagnostics_eq]
  refine (split.filter _).trans ?_
  rw [List.filter_append, ← skips, own, occurrences_eq language, List.flatMap_assoc]
  simp only [List.filter_flatMap]
  exact .refl _

/-- In all scopes of a row, the statements of column rules are those of their values. -/
theorem flatMap_columnStatements : scope.scopes.flatMap (columnStatements language) =
    (scope.scopes.flatMap (columnValues language)).filterMap (·.statement? language) := by
  simp only [List.filterMap_flatMap, filterMap_statement?_columnValues]

theorem flatMap_skips : scope.scopes.flatMap (skips language) =
    (scope.scopes.flatMap (columnValues language)).filterMap (·.skip? language) := by
  simp only [List.filterMap_flatMap, filterMap_skip?_columnValues]

end Scope

end Scopes

/-! ### What a site promises -/

section Sites

variable {setting : Setting} {site : Site} {inherited : Identifiers} {result : Scope}

theorem Rule.length_columnValues (rule : Rule) (row : Row) (subject : String) :
    (rule.columnValues row subject).length = rule.columnValueCount row := by
  unfold Rule.columnValues Rule.columnValueCount
  cases rule.target with
  | column name => rw [length_ofValues, Row.length_values]
  | _ => rfl

/-- A rule becomes a fact with the same values. -/
theorem Expanding.Becomes.columnValues {options : Options} {row : Row} {ids : Identifiers}
    {parts : Parts} {rule : Rule} {fact : Fact}
    (h : Becomes setting options row ids parts rule fact) (subject : String) :
    fact.columnValues subject = rule.columnValues row subject := by
  cases h <;> rfl

/-- The values of a scope are those of its site. -/
theorem Site.Matches.columnValues (h : site.Matches setting inherited result)
    (language : Language) :
    result.columnValues language = site.columnValues language result.identifiers := by
  simp only [Scope.columnValues, Scope.sentences, List.flatMap_assoc, List.flatMap_map]
  refine flatMap_eq_of_forall₂ h.expands.run.2 fun entry entity instantiates => ?_
  rw [instantiates.id]
  exact flatMap_eq_of_forall₂ instantiates.facts fun rule fact becomes => becomes.columnValues _

/-- A scope has as many values as its site. -/
theorem Site.Matches.length_columnValues (h : site.Matches setting inherited result)
    (language : Language) : (result.columnValues language).length = site.columnValueCount := by
  rw [h.columnValues, Site.columnValues, List.length_flatMap, Site.columnValueCount,
    List.map_flatMap, List.flatMap_def, List.sum_flatten, List.map_map]
  refine congrArg List.sum (List.map_congr_left fun entry member => ?_)
  obtain ⟨entity, _, instantiates⟩ := exists_of_mem_left h.expands.run.2 member
  simp only [instantiates.id, List.length_flatMap, Rule.length_columnValues, Function.comp_apply]

/-- A row has as many values as its sites. -/
theorem sum_columnValueCount {t : Template} {row : Row}
    (h : Expands setting t row [] none result) (language : Language) :
    (result.scopes.flatMap (Scope.columnValues language)).length =
      ((Site.root t row).sites.map Site.columnValueCount).sum := by
  have each := (Site.Matches.root h).sites.imp fun site scope matched =>
    matched.elim fun _ matched => matched.length_columnValues language
  rw [List.length_flatMap]
  refine congrArg List.sum (List.forall₂_eq_eq_eq ▸ ?_)
  rw [List.forall₂_map_left_iff, List.forall₂_map_right_iff]
  exact each.flip

end Sites

/-- What a value comes to: its statement, or a diagnostic about a skipped value of its subject that
names its property, and never both. -/
def ColumnValue.IsAccounted (language : Language) (v : ColumnValue) : Prop :=
  (∃ object, v.statement? language =
      some ⟨v.subject, language.vocabulary.resource v.predicate, object⟩ ∧
    v.skip? language = none) ∨
  (∃ error, error.property = language.vocabulary.localName v.predicate ∧
    v.skip? language = some (.skippedValue v.subject error) ∧ v.statement? language = none)

theorem ColumnValue.isAccounted (language : Language) (v : ColumnValue) :
    v.IsAccounted language := by
  unfold IsAccounted statement? skip?
  cases told : language.literal v.predicate v.value with
  | ok object => exact .inl ⟨object, rfl, rfl⟩
  | error error => exact .inr ⟨error, property_of_literal_error told, rfl, rfl⟩

/-- Every column value is accounted for. The scopes of a row that expands are those of the sites of
its template, and in each of them the values of column rules are those of the columns. Over all
scopes there are as many values as the columns have, and as many as statements from column rules and
diagnostics about skipped values together. The statements of the row are those from column rules and
the others of its scopes. Each value comes to its statement or to its diagnostic, and nothing else
does. -/
theorem column_values_accounted (setting : Setting) (t : Template) (header : Header)
    (cells : List Datum) (progress : Progress) (expansion : Expansion)
    (done : (expandRow setting t header cells progress).1 = .ok expansion) :
    ∃ result progress',
      (Expanding.row setting t header cells).run progress = (.ok result, progress') ∧
      expansion = result.expansion setting.language ∧
      let language := setting.language
      let sites := (Site.root t { header, cells }).sites
      let values := result.scopes.flatMap (Scope.columnValues language)
      let stated := result.scopes.flatMap (Scope.columnStatements language)
      let skipped := expansion.diagnostics.filter Diagnostic.isSkippedValue
      (sites.map Site.columnValueCount).sum = stated.length + skipped.length ∧
      expansion.statements.Perm
        (stated ++ result.scopes.flatMap (Scope.otherStatements language)) ∧
      (∀ site, site ∈ sites ↔ ∃ chain, (Site.root t { header, cells }).follow? chain = some site) ∧
      List.Forall₂ (fun site scope =>
        scope.columnValues language = site.columnValues language scope.identifiers ∧
        (scope.columnValues language).length = site.columnValueCount) sites result.scopes ∧
      stated = values.filterMap (·.statement? language) ∧
      skipped.Perm (values.filterMap (·.skip? language)) ∧
      ∀ v ∈ values, v.IsAccounted language := by
  obtain ⟨result, progress', yields, rfl⟩ := exists_scope_of_expandRow done
  have expanded : Expands setting t { header, cells } [] none result :=
    ⟨progress, progress', yields⟩
  have stated := Scope.flatMap_columnStatements setting.language result
  have skipped := perm_scopes (Scope.perm_skipped setting.language) result
  rw [Scope.flatMap_skips] at skipped
  have statements := perm_scopes (Scope.perm_statements setting.language) result
  have matched := (Site.Matches.root expanded).sites
  refine ⟨result, progress', yields, rfl, ?_, ?_, fun site => Site.mem_sites_iff, ?_, stated,
    skipped, fun v _ => v.isAccounted setting.language⟩
  · rw [← sum_columnValueCount expanded setting.language, stated]
    exact (length_filterMap_add setting.language _).symm.trans
      (congrArg _ skipped.length_eq.symm)
  · exact statements.trans (List.flatMap_append_perm _ _ _).symm
  · refine matched.imp fun site scope => ?_
    rintro ⟨_, matched⟩
    exact ⟨matched.columnValues setting.language, matched.length_columnValues setting.language⟩

def ageSetting : Setting :=
  { recordSetting with
    language := { recordSetting.language with schema := ⟨[("age", "Integer")]⟩ } }

/-- An owner with a name and a label, and pets with an age. -/
def agesTemplate : Template :=
  ⟨[⟨"Owner", "owner", [⟨.type, []⟩, ⟨.column "name", ["name", "label"]⟩,
      ⟨.repeated "pets" "pet", ["keeps"]⟩]⟩],
    [("pets", ⟨"pets", "pet"⟩,
      ⟨[⟨"Pet", "pet", [⟨.type, []⟩, ⟨.column "pet", ["age"]⟩]⟩], [], [], {}⟩)], [], {}⟩

/-- The cells of an owner of two pets, the age of one of which is no integer. -/
def ageCells : List Datum :=
  [.text "Ada", .list [.text "7", .text "seven"]]

theorem column_values_accounted_ages : ∃ expansion,
    (expandRow ageSetting agesTemplate ⟨["name", "pets"]⟩ ageCells {}).1 = .ok expansion ∧
    ∃ result, expansion = Scope.expansion ageSetting.language result ∧
      (result.scopes.flatMap (Scope.columnStatements ageSetting.language)).length +
        (expansion.diagnostics.filter Diagnostic.isSkippedValue).length = 4 := by
  have done : ∃ expansion, (expandRow ageSetting agesTemplate ⟨["name", "pets"]⟩ ageCells {}).1 =
      .ok expansion := ⟨_, rfl⟩
  obtain ⟨expansion, done⟩ := done
  obtain ⟨result, _, _, same, count, _⟩ :=
    column_values_accounted ageSetting agesTemplate _ _ {} expansion done
  refine ⟨expansion, done, result, same, count.symm.trans ?_⟩
  -- The sites are those of the owner and of the two pets.
  have sites : ∃ rex tom : Site,
      (Site.root agesTemplate ⟨⟨["name", "pets"]⟩, ageCells, []⟩).inner = [rex, tom] ∧
        rex.inner = [] ∧ tom.inner = [] ∧ rex.columnValueCount = 1 ∧ tom.columnValueCount = 1 :=
    ⟨_, _, rfl, rfl, rfl, by decide, by decide⟩
  obtain ⟨rex, tom, inner, innerRex, innerTom, countRex, countTom⟩ := sites
  rw [Site.sites_eq, inner, List.flatMap_cons, List.flatMap_cons, List.flatMap_nil,
    Site.sites_eq rex, Site.sites_eq tom, innerRex, innerTom]
  simp only [List.flatMap_nil, List.append_nil, List.cons_append, List.nil_append, List.map_cons,
    List.map_nil, countRex, countTom]
  rfl

end RowTriples
