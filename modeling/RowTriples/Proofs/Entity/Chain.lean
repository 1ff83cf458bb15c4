import RowTriples.Proofs.Entity.Instantiation
import RowTriples.Proofs.Pointwise
/-!
# Chains of repetitions

Every scope of a row is reached from the outermost one by entering repetitions. A branch says which
rule of which entry is repeated and for which element; it leads from a template to a subtemplate
and, in the same way, from a scope to one of its repetitions. A template and the scope that it
expands to have the same branches, as far as there are elements in the row.
-/

namespace RowTriples

/-- The way into a repetition: the places of an entry, of a rule in it, and of an element. -/
structure Branch where
  entry : Nat
  rule : Nat
  element : Nat
  deriving DecidableEq

namespace Template

/-- The subtemplate that a branch leads into, what it is repeated for, and the symbol that is linked
to. -/
def branch? (t : Template) (branch : Branch) : Option (String × Iteration × Template) := do
  let entry ← t.entries[branch.entry]?
  let rule ← entry.rules[branch.rule]?
  match rule.target with
  | .repeated name symbol => (t.subtemplates.lookup name).map fun part => (symbol, part)
  | _ => none

/-- The template that a chain of branches leads to. -/
def follow? (t : Template) : List Branch → Option Template
  | [] => some t
  | branch :: chain => (t.branch? branch).bind fun part => part.2.2.follow? chain

end Template

namespace Scope

/-- The repetition that a branch leads into, with the identifier that it is linked by. -/
def branch? (result : Scope) (branch : Branch) : Option (String × Scope) := do
  let entity ← result.entities[branch.entry]?
  let fact ← entity.facts[branch.rule]?
  match fact with
  | .repeated _ occurrences => occurrences[branch.element]?
  | _ => none

def follow? (result : Scope) : List Branch → Option Scope
  | [] => some result
  | branch :: chain => (result.branch? branch).bind fun occurrence => occurrence.2.follow? chain

end Scope

section Branches

variable {t inner : Template} {result : Scope} {branch : Branch} {symbol : String}
variable {iteration : Iteration} {occurrence : String × Scope}

theorem Template.branch?_eq_some_iff :
    t.branch? branch = some (symbol, iteration, inner) ↔
      ∃ entry name predicates, t.entries[branch.entry]? = some entry ∧
        entry.rules[branch.rule]? = some ⟨.repeated name symbol, predicates⟩ ∧
        t.subtemplates.lookup name = some (iteration, inner) := by
  constructor
  · intro found
    obtain ⟨entry, entryAt, found⟩ := Option.bind_eq_some_iff.mp found
    obtain ⟨⟨target, predicates⟩, ruleAt, found⟩ := Option.bind_eq_some_iff.mp found
    cases target with
    | repeated name symbol' =>
        obtain ⟨part, partAt, same⟩ := Option.map_eq_some_iff.mp found
        cases same
        exact ⟨entry, name, predicates, entryAt, ruleAt, partAt⟩
    | type => cases found
    | column => cases found
    | symbol => cases found
  · rintro ⟨entry, name, predicates, entryAt, ruleAt, partAt⟩
    simp [branch?, entryAt, ruleAt, partAt]

theorem Scope.branch?_eq_some_iff :
    result.branch? branch = some occurrence ↔
      ∃ entity predicates occurrences, result.entities[branch.entry]? = some entity ∧
        entity.facts[branch.rule]? = some (.repeated predicates occurrences) ∧
        occurrences[branch.element]? = some occurrence := by
  constructor
  · intro found
    obtain ⟨entity, entityAt, found⟩ := Option.bind_eq_some_iff.mp found
    obtain ⟨fact, factAt, found⟩ := Option.bind_eq_some_iff.mp found
    cases fact with
    | repeated predicates occurrences =>
        exact ⟨entity, predicates, occurrences, entityAt, factAt, found⟩
    | type => cases found
    | link => cases found
    | values => cases found
  · rintro ⟨entity, predicates, occurrences, entityAt, factAt, occurrenceAt⟩
    simp [branch?, entityAt, factAt, occurrenceAt]

theorem Template.follow?_concat {chain : List Branch} :
    t.follow? (chain ++ [branch]) = some inner ↔ ∃ outer symbol iteration,
      t.follow? chain = some outer ∧ outer.branch? branch = some (symbol, iteration, inner) := by
  induction chain generalizing t with
  | nil => simp [follow?, Option.bind_eq_some_iff]
  | cons first chain ih =>
      simp only [List.cons_append, follow?, Option.bind_eq_some_iff, ih]
      constructor
      · rintro ⟨part, found, outer, symbol, iteration, reached, last⟩
        exact ⟨outer, symbol, iteration, ⟨part, found, reached⟩, last⟩
      · rintro ⟨outer, symbol, iteration, ⟨part, found, reached⟩, last⟩
        exact ⟨part, found, outer, symbol, iteration, reached, last⟩

theorem Scope.follow?_concat {chain : List Branch} {repetition : Scope} :
    result.follow? (chain ++ [branch]) = some repetition ↔ ∃ outer id,
      result.follow? chain = some outer ∧ outer.branch? branch = some (id, repetition) := by
  induction chain generalizing result with
  | nil => simp [follow?, Option.bind_eq_some_iff]
  | cons first chain ih =>
      simp only [List.cons_append, follow?, Option.bind_eq_some_iff, ih]
      constructor
      · rintro ⟨part, found, outer, id, reached, last⟩
        exact ⟨outer, id, ⟨part, found, reached⟩, last⟩
      · rintro ⟨outer, id, ⟨part, found, reached⟩, last⟩
        exact ⟨part, found, outer, id, reached, last⟩

end Branches

namespace Expanding

variable {setting : Setting} {t inner : Template} {row : Row} {inherited : Identifiers}
variable {element : Option Nat} {result : Scope} {branch : Branch} {occurrence : String × Scope}

/-- Whatever repetition a scope has, its template repeats a subtemplate there, for an element of the
row. -/
theorem Expands.repeats_of_branch? (h : Expands setting t row inherited element result)
    (found : result.branch? branch = some occurrence) :
    ∃ symbol iteration inner value, t.branch? branch = some (symbol, iteration, inner) ∧
      ((row.derive t.bindings).values iteration.source)[branch.element]? = some value ∧
      Repeats setting t.options (row.derive t.bindings) result.identifiers symbol
        iteration.variableName (template setting inner) (value, branch.element) occurrence := by
  obtain ⟨entity, predicates, occurrences, entityAt, factAt, occurrenceAt⟩ :=
    Scope.branch?_eq_some_iff.mp found
  obtain ⟨entry, entryAt, instantiates⟩ := exists_of_getElem?_right h.run.2 entityAt
  obtain ⟨rule, ruleAt, becomes⟩ := exists_of_getElem?_right instantiates.facts factAt
  obtain ⟨name, symbol, iteration, inner, rfl, partAt, repeats⟩ := becomes.of_fact
  obtain ⟨⟨value, i⟩, numbered, repeats⟩ := exists_of_getElem?_right repeats occurrenceAt
  obtain ⟨valueAt, rfl⟩ : ((row.derive t.bindings).values iteration.source)[branch.element]? =
      some value ∧ branch.element = i := by
    simpa [List.getElem?_zipIdx] using numbered
  exact ⟨symbol, iteration, inner, value,
    Template.branch?_eq_some_iff.mpr ⟨entry, name, predicates, entryAt, ruleAt, partAt⟩,
    valueAt, repeats⟩

/-- Where a template repeats a subtemplate, its scope has a repetition for every element of the
row. -/
theorem Expands.exists_branch? (h : Expands setting t row inherited element result)
    {symbol : String} {iteration : Iteration} {value : Datum}
    (found : t.branch? branch = some (symbol, iteration, inner))
    (valueAt : ((row.derive t.bindings).values iteration.source)[branch.element]? = some value) :
    ∃ occurrence, result.branch? branch = some occurrence ∧
      Repeats setting t.options (row.derive t.bindings) result.identifiers symbol
        iteration.variableName (template setting inner) (value, branch.element) occurrence := by
  obtain ⟨entry, name, predicates, entryAt, ruleAt, partAt⟩ :=
    Template.branch?_eq_some_iff.mp found
  obtain ⟨entity, entityAt, instantiates⟩ := exists_of_getElem?_left h.run.2 entryAt
  obtain ⟨fact, factAt, becomes⟩ := exists_of_getElem?_left instantiates.facts ruleAt
  obtain ⟨iteration', inner', occurrences, partAt', rfl, repeats⟩ := becomes.of_rule
  cases partAt.symm.trans partAt'
  have numbered : ((row.derive t.bindings).values iteration.source).zipIdx[branch.element]? =
      some (value, branch.element) := by
    simp [List.getElem?_zipIdx, valueAt]
  obtain ⟨occurrence, occurrenceAt, repeats⟩ := exists_of_getElem?_left repeats numbered
  refine ⟨occurrence, Scope.branch?_eq_some_iff.mpr ?_, repeats⟩
  exact ⟨entity, predicates, occurrences, entityAt, factAt, occurrenceAt⟩

end Expanding

end RowTriples
