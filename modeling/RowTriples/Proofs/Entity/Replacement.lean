import RowTriples.Proofs.Entity.Chain
import RowTriples.Proofs.Entity.Steady
/-!
# Templates in place of others

A template sees of its subtemplates only the identifiers that they find, for it links to them. Where
content decides and there is no geocoder, a subtemplate can therefore be replaced, at any depth, by
one that finds the same identifiers wherever it is entered. The rows that expanded still expand, the
scopes around keep their identifiers, and the scopes in question are entered as before.
-/

namespace RowTriples

open Expanding

namespace Template

def repeatedName? (t : Template) (branch : Branch) : Option String := do
  let entry ← t.entries[branch.entry]?
  let rule ← entry.rules[branch.rule]?
  match rule.target with
  | .repeated name _ => some name
  | _ => none

/-- The subtemplates with the one of a name changed. -/
def editPart (name : String) (edit : Template → Template)
    (parts : List (String × Iteration × Template)) : List (String × Iteration × Template) :=
  parts.map fun part => (part.1, part.2.1, if part.1 = name then edit part.2.2 else part.2.2)

/-- The template with another one where a chain of branches leads. -/
def replaceAt (t : Template) : List Branch → Template → Template
  | [], replacement => replacement
  | branch :: chain, replacement =>
    match t.repeatedName? branch with
    | none => t
    | some name =>
      { t with subtemplates := editPart name (·.replaceAt chain replacement) t.subtemplates }

variable {t inner u u' : Template} {branch : Branch} {chain : List Branch} {symbol : String}
variable {iteration : Iteration}

theorem lookup_editPart {name other : String} {edit : Template → Template}
    {parts : List (String × Iteration × Template)} :
    (editPart name edit parts).lookup other = (parts.lookup other).map fun part =>
      (part.1, if other = name then edit part.2 else part.2) := by
  induction parts with
  | nil => rfl
  | cons part parts ih =>
      rw [editPart, List.map_cons, List.lookup_cons, List.lookup_cons]
      by_cases same : other = part.1
      · simp [same]
      · simp only [beq_eq_false_iff_ne.mpr same]
        exact ih

/-- A template is replaced behind a branch by replacing it in the subtemplate there. -/
theorem exists_replaceAt (found : t.branch? branch = some (symbol, iteration, inner))
    (chain : List Branch) (u : Template) :
    ∃ name, t.subtemplates.lookup name = some (iteration, inner) ∧
      t.replaceAt (branch :: chain) u =
        { t with subtemplates := editPart name (·.replaceAt chain u) t.subtemplates } ∧
      (t.replaceAt (branch :: chain) u).branch? branch =
        some (symbol, iteration, inner.replaceAt chain u) := by
  obtain ⟨entry, name, predicates, entryAt, ruleAt, partAt⟩ := branch?_eq_some_iff.mp found
  have replaced : t.replaceAt (branch :: chain) u =
      { t with subtemplates := editPart name (·.replaceAt chain u) t.subtemplates } := by
    simp [replaceAt, repeatedName?, entryAt, ruleAt]
  refine ⟨name, partAt, replaced, ?_⟩
  rw [replaced, branch?_eq_some_iff]
  exact ⟨entry, name, predicates, entryAt, ruleAt, by simp [lookup_editPart, partAt]⟩

end Template

namespace Expanding

variable {setting : Setting} {t inner u u' : Template} {row : Row} {inherited : Identifiers}
variable {element : Option Nat} {result result' scope : Scope} {chain : List Branch}

/-- Where the one template expands, the other does so as well, and it finds the same identifiers. -/
def Keeps (setting : Setting) (t t' : Template) : Prop :=
  ∀ row inherited element result, Expands setting t row inherited element result →
    ∃ result', Expands setting t' row inherited element result' ∧
      result'.identifiers = result.identifiers

/-- The identifiers that a template finds do not depend on its subtemplates. -/
theorem Expands.identifiers_eq (deterministic : setting.mode.isDeterministic = true)
    (absent : setting.geocoder = none) {parts : List (String × Iteration × Template)}
    (h : Expands setting t row inherited element result)
    (h' : Expands setting { t with subtemplates := parts } row inherited element result') :
    result'.identifiers = result.identifiers := by
  have identified := ((always_template_iff deterministic absent).mp
    (h.always deterministic absent)).1
  have identified' := ((always_template_iff deterministic absent).mp
    (h'.always deterministic absent)).1
  exact identified'.unique identified

theorem Keeps.refl : Keeps setting t t :=
  fun _ _ _ result expanded => ⟨result, expanded, rfl⟩

/-- Where a subtemplate is repeated, one that finds the same identifiers can be entered as well. -/
theorem Keeps.enters (deterministic : setting.mode.isDeterministic = true)
    (absent : setting.geocoder = none) {options : Options} {ids seed : Identifiers}
    {symbol variableName : String} {values : List Datum} {occurrences : List (String × Scope)}
    (repeats : List.Forall₂ (Repeats setting options row ids symbol variableName
      (template setting u)) values.zipIdx occurrences)
    (keeps : Keeps setting u u') {value : Datum} (member : value ∈ values) {i : Nat}
    (seeds : Seeds setting options (row.bind variableName value .iteration) ids symbol i seed) :
    Succeeds (template setting u' (row.bind variableName value .iteration) seed (some i))
      fun scope => symbol ∈ Entries.names scope.identifiers := by
  obtain ⟨j, valueAt⟩ := List.mem_iff_getElem?.mp member
  have numbered : values.zipIdx[j]? = some (value, j) := by
    simp [List.getElem?_zipIdx, valueAt]
  obtain ⟨occurrence, _, repeated⟩ := exists_of_getElem?_left repeats numbered
  obtain ⟨repetition, expands, found⟩ :=
    keeps _ _ _ _ (repeated.always deterministic absent).expands
  obtain rfl := seeds.eq deterministic
  rw [template_element deterministic u' none]
  apply (expands.always deterministic absent).succeeds
  rw [found]
  exact Entries.mem_names_of_get? repeated.1

/-- A subtemplate that finds the same identifiers can stand in the place of another. -/
theorem Keeps.editPart (deterministic : setting.mode.isDeterministic = true)
    (absent : setting.geocoder = none) {name : String} {iteration : Iteration}
    {edit : Template → Template} (partAt : t.subtemplates.lookup name = some (iteration, inner))
    (keeps : Keeps setting inner (edit inner)) :
    Keeps setting t { t with subtemplates := Template.editPart name edit t.subtemplates } := by
  intro row inherited element result expanded
  obtain ⟨identified, looked, _⟩ :=
    (always_template_iff deterministic absent).mp (expanded.always deterministic absent)
  have enters : Succeeds (entities setting t.options (row.derive t.bindings) result.identifiers
      (subtemplatesOf setting (Template.editPart name edit t.subtemplates)) t.entries)
        fun _ => True := by
    apply succeeds_entities
    · intro entry member
      obtain ⟨entity, _, instantiates⟩ := exists_of_mem_left expanded.run.2 member
      exact Entries.mem_names_of_get? instantiates.id
    · intro entry member rule ruleMember
      obtain ⟨entity, _, instantiates⟩ := exists_of_mem_left expanded.run.2 member
      obtain ⟨fact, _, becomes⟩ := exists_of_mem_left instantiates.facts ruleMember
      apply succeeds_fact
      · intro other target
        cases becomes <;> cases target
        next known => exact Entries.mem_names_of_get? known
      · intro other symbol target
        obtain ⟨_, predicates⟩ := rule
        cases target
        obtain ⟨iteration', inner', occurrences, part, rfl, repeats⟩ := becomes.of_rule
        refine ⟨iteration', template setting (if other = name then edit inner' else inner'), by
          simp [lookup_subtemplatesOf, Template.lookup_editPart, part], ?_⟩
        intro value i valueAt seed _ seeds
        apply Keeps.enters deterministic absent repeats _ (List.mem_of_getElem? valueAt) seeds
        by_cases same : other = name
        · subst same
          cases partAt.symm.trans part
          rwa [if_pos rfl]
        · rw [if_neg same]
          exact .refl
  obtain ⟨known, _, entered, _⟩ := enters {}
  have entered := (steady_entities deterministic
    (steady_subtemplatesOf deterministic absent _)).always entered
  refine ⟨.mk result.identifiers result.lookups known, Always.expands ?_, rfl⟩
  exact (always_template_iff deterministic absent).mpr ⟨identified, looked, entered⟩

/-- The same holds for a subtemplate at any depth. -/
theorem Keeps.replaceAt (deterministic : setting.mode.isDeterministic = true)
    (absent : setting.geocoder = none) (found : t.follow? chain = some u)
    (keeps : Keeps setting u u') : Keeps setting t (t.replaceAt chain u') := by
  induction chain generalizing t with
  | nil =>
      cases found
      exact keeps
  | cons branch chain ih =>
      obtain ⟨⟨symbol, iteration, inner⟩, part, found⟩ := Option.bind_eq_some_iff.mp found
      obtain ⟨name, partAt, replaced, _⟩ := Template.exists_replaceAt part chain _
      rw [replaced]
      exact Keeps.editPart deterministic absent partAt (ih found)

/-- Where a template has been replaced, the scope that the chain leads to is what the other template
expands to for the same row and the same identifiers around it. -/
theorem Expands.follow_replaceAt (deterministic : setting.mode.isDeterministic = true)
    (absent : setting.geocoder = none) (found : t.follow? chain = some u)
    (expanded : Expands setting t row inherited element result)
    (expanded' : Expands setting (t.replaceAt chain u') row inherited element result')
    (reached : result.follow? chain = some scope) :
    ∃ scope' row inherited element, result'.follow? chain = some scope' ∧
      Expands setting u row inherited element scope ∧
      Expands setting u' row inherited element scope' := by
  induction chain generalizing t row inherited element result result' with
  | nil =>
      cases found
      cases reached
      exact ⟨result', row, inherited, element, rfl, expanded, expanded'⟩
  | cons branch chain ih =>
      obtain ⟨⟨id, outer⟩, first, reached⟩ := Option.bind_eq_some_iff.mp reached
      obtain ⟨symbol, iteration, inner, value, part, valueAt, repeats⟩ :=
        expanded.repeats_of_branch? first
      obtain ⟨name, _, replaced, part'⟩ := Template.exists_replaceAt part chain u'
      obtain ⟨_, part'', found⟩ := Option.bind_eq_some_iff.mp found
      cases part.symm.trans part''
      have values : ((row.derive (t.replaceAt (branch :: chain) u').bindings).values
          iteration.source)[branch.element]? = some value := by
        rw [replaced]
        exact valueAt
      obtain ⟨⟨id', outer'⟩, first', repeats'⟩ := expanded'.exists_branch? part' values
      have same : result'.identifiers = result.identifiers := by
        rw [replaced] at expanded'
        exact expanded.identifiers_eq deterministic absent expanded'
      rw [same, replaced] at repeats'
      obtain ⟨scope', row', inherited', element', reached', here, there⟩ := ih found
        (repeats.always deterministic absent).expands
        (repeats'.always deterministic absent).expands reached
      refine ⟨scope', row', inherited', element', ?_, here, there⟩
      exact Option.bind_eq_some_iff.mpr ⟨_, first', reached'⟩

end Expanding

end RowTriples
