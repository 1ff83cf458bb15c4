import RowTriples.Proofs.Entity.Rendered
/-!
# What a row says apart from identifiers

The template and the row alone decide which statements a row makes, in which order, and everything
in them except for identifiers: the predicates, the classes and the literals. The same holds of the
diagnostics. This is the sketch of a row. It is drawn without identifiers, so it is the same in
every mode, and without a geocoder every expansion of the row follows it.
-/

namespace RowTriples

open Expanding

/-! ### Sketches -/

/-- A statement apart from the identifiers in it: its subject and, for a link, its object. -/
inductive StatementSketch where
  /-- The object is a class. -/
  | type (object : String)
  | link (predicate : String)
  /-- The object is a literal. -/
  | value (predicate object : String)

inductive StatementSketch.Fits : StatementSketch → Statement → Prop where
  | type {subject object : String} : Fits (.type object) ⟨subject, iriToken rdfType, object⟩
  | link {subject predicate object : String} : Fits (.link predicate) ⟨subject, predicate, object⟩
  | value {subject predicate object : String} :
      Fits (.value predicate object) ⟨subject, predicate, object⟩

def Diagnostic.withSubject (subject : String) : Diagnostic → Diagnostic
  | .skippedValue _ error => .skippedValue subject error
  | .geocodeFailed _ error => .geocodeFailed subject error
  | .geocodeNoMatch _ => .geocodeNoMatch subject
  | .geocoderUnavailable _ => .geocoderUnavailable subject

/-- The statements and the diagnostics of a row apart from the identifiers in them. -/
structure Sketch where
  statements : List StatementSketch := []
  /-- The diagnostics, with empty subjects. -/
  diagnostics : List Diagnostic := []

namespace Sketch

def append (first second : Sketch) : Sketch :=
  ⟨first.statements ++ second.statements, first.diagnostics ++ second.diagnostics⟩

def join : List Sketch → Sketch
  | [] => {}
  | first :: others => first.append (join others)

structure Describes (sketch : Sketch) (statements : List Statement)
    (diagnostics : List Diagnostic) : Prop where
  statements : List.Forall₂ StatementSketch.Fits sketch.statements statements
  diagnostics : diagnostics.map (Diagnostic.withSubject "") = sketch.diagnostics

theorem Describes.nil : ({} : Sketch).Describes [] [] :=
  ⟨.nil, rfl⟩

theorem Describes.append {first second : Sketch} {statements statements' : List Statement}
    {diagnostics diagnostics' : List Diagnostic} (h : first.Describes statements diagnostics)
    (h' : second.Describes statements' diagnostics') :
    (first.append second).Describes (statements ++ statements') (diagnostics ++ diagnostics') :=
  ⟨List.rel_append h.statements h'.statements,
    by rw [List.map_append, h.diagnostics, h'.diagnostics, Sketch.append]⟩

end Sketch

/-! ### The sketch of a template -/

section Drawing

variable (language : Language)

/-- A subtemplate by its name, what it is repeated for, and its sketch for each row. -/
abbrev PartSketches := List (String × Iteration × (Row → Sketch))

def linkSketch (predicates : List String) : Sketch :=
  { statements := predicates.map fun predicate => .link (language.vocabulary.resource predicate) }

def valueSketch (predicates : List String) (values : List Datum) : Sketch :=
  { statements := predicates.flatMap fun predicate => values.filterMap fun value =>
      match language.literal predicate value with
      | .ok object => some (.value (language.vocabulary.resource predicate) object)
      | .error _ => none
    diagnostics := language.skipValues "" predicates values }

def Rule.sketch (row : Row) (parts : PartSketches) (type : String) (rule : Rule) : Sketch :=
  match rule.target with
  | .type => { statements := [.type (language.vocabulary.resource type)] }
  | .symbol _ => linkSketch language rule.predicates
  | .column name => valueSketch language rule.predicates (row.values name)
  | .repeated name _ =>
    match parts.lookup name with
    | none => {}
    | some (iteration, inner) => .join ((row.values iteration.source).map fun element =>
        (linkSketch language rule.predicates).append
          (inner (row.bind iteration.variableName element .iteration)))

def Entry.sketch (row : Row) (parts : PartSketches) (entry : Entry) : Sketch :=
  .join (entry.rules.map (Rule.sketch language row parts entry.type))

/-- The diagnostics, without a geocoder, of the addresses that are to be looked up. -/
def lookupSketch (options : Options) (row : Row) (entries : List Entry) : Sketch :=
  { diagnostics := entries.filterMap fun entry =>
      (addressQuery? language.vocabulary options row entry).map fun _ => .geocoderUnavailable "" }

/-- The sketch of a template whose subtemplates have the given sketches. -/
def scopeSketch (entries : List Entry) (bindings : List NamedBinding) (options : Options)
    (parts : PartSketches) (row : Row) : Sketch :=
  (lookupSketch language options (row.derive bindings) entries).append
    (.join (entries.map (Entry.sketch language (row.derive bindings) parts)))

mutual

/-- What a template says for a row, apart from identifiers. -/
def Template.sketch : Template → Row → Sketch
  | ⟨entries, subtemplates, bindings, options⟩ =>
    scopeSketch language entries bindings options (sketchesOf subtemplates)

def sketchesOf : List (String × Iteration × Template) → PartSketches
  | [] => []
  | (name, iteration, inner) :: others => (name, iteration, inner.sketch) :: sketchesOf others

end

theorem lookup_sketchesOf (subtemplates : List (String × Iteration × Template)) (name : String) :
    (sketchesOf language subtemplates).lookup name =
      (subtemplates.lookup name).map fun part => (part.1, part.2.sketch language) := by
  induction subtemplates with
  | nil => rfl
  | cons head subtemplates ih =>
      obtain ⟨key, iteration, inner⟩ := head
      simp only [sketchesOf, List.lookup_cons]
      split
      · rfl
      · exact ih

end Drawing

/-! ### Expansions follow the sketch -/

section Following

variable {language : Language} {subject : String} {predicates : List String}

theorem describes_relate {object : String} :
    (linkSketch language predicates).Describes (language.relate subject predicates object) [] := by
  refine ⟨?_, rfl⟩
  rw [linkSketch, Language.relate, List.forall₂_map_left_iff, List.forall₂_map_right_iff,
    List.forall₂_same]
  exact fun _ _ => .link

theorem describes_values {values : List Datum} :
    (valueSketch language predicates values).Describes
      (language.assertValues subject predicates values)
      (language.skipValues subject predicates values) := by
  constructor
  · refine List.rel_flatMap (List.forall₂_same.mpr fun _ _ => rfl) ?_
    rintro predicate _ rfl
    refine List.rel_filterMap ?_ (List.forall₂_same.mpr fun _ _ => rfl)
    rintro value _ rfl
    cases literal : language.literal predicate value with
    | ok object =>
        simp only [literal]
        exact .some .value
    | error =>
        simp only [literal]
        exact .none
  · rw [valueSketch, Language.skipValues, Language.skipValues, List.map_flatMap]
    refine congrArg (List.flatMap · predicates) (funext fun predicate => ?_)
    rw [List.map_filterMap]
    refine List.filterMap_congr fun value _ => ?_
    split <;> rfl

/-- Without a geocoder, every address that is to be looked up leaves a diagnostic. -/
theorem diagnostics_of_lookUpAll {setting : Setting} {options : Options} {row : Row}
    {ids : Identifiers} {entries : List Entry} {lookups : List Lookup}
    {progress progress' : Progress}
    (absent : setting.geocoder = none)
    (known : ∀ entry ∈ entries, entry.symbol ∈ Entries.names ids)
    (yields : Yields (lookUpAll setting options row ids entries) progress lookups progress') :
    (lookups.filterMap (Lookup.diagnostic? setting.language)).map (Diagnostic.withSubject "") =
      (lookupSketch setting.language options row entries).diagnostics := by
  induction entries generalizing progress progress' lookups with
  | nil =>
      obtain ⟨rfl, _⟩ := yields_pure.mp yields
      rfl
  | cons entry entries ih =>
      obtain ⟨id, found⟩ := Entries.exists_get?_of_mem (known entry List.mem_cons_self)
      have others := fun other member => known other (List.mem_cons_of_mem entry member)
      unfold lookUpAll at yields
      rw [found] at yields
      cases asks : addressQuery? setting.language.vocabulary options row entry with
      | none =>
          rw [asks] at yields
          rw [ih others yields]
          simp [lookupSketch, asks]
      | some query =>
          rw [asks] at yields
          obtain ⟨outcome, _, asked, yields⟩ := yields_bind.mp yields
          obtain ⟨rest, _, later, yields⟩ := yields_bind.mp yields
          obtain ⟨rfl, _⟩ := yields_pure.mp yields
          have unanswered := unavailable_of_lookUp absent asked
          have ih := ih others later
          simp only [lookupSketch] at ih ⊢
          simp [asks, unanswered, Lookup.diagnostic?, Diagnostic.withSubject, ih]

/-- Repetitions follow the sketches of their links and of what is repeated. -/
theorem describes_occurrences {rel : Datum × Nat → String × Scope → Prop} {values : List Datum}
    {i : Nat} {occurrences : List (String × Scope)} {inner : Datum → Sketch}
    (repeats : List.Forall₂ rel (values.zipIdx i) occurrences)
    (each : ∀ element occurrence, rel element occurrence → (inner element.1).Describes
      (occurrence.2.statements language) (occurrence.2.diagnostics language)) :
    (Sketch.join (values.map fun element =>
        (linkSketch language predicates).append (inner element))).Describes
      (statementsOfOccurrences language subject predicates occurrences)
      (diagnosticsOfOccurrences language occurrences) := by
  induction values generalizing i occurrences with
  | nil =>
      cases repeats
      exact .nil
  | cons value values ih =>
      rw [List.zipIdx_cons] at repeats
      obtain _ | @⟨_, ⟨id, scope⟩, _, _, first, rest⟩ := repeats
      exact (describes_relate.append (each _ _ first)).append (ih rest)

section Scopes

variable {setting : Setting} {options : Options} {row : Row} {ids : Identifiers}
variable {subtemplates : List (String × Iteration × Template)}

/-- Every expansion of the template, without a geocoder, follows its sketch. -/
def Followed (setting : Setting) (t : Template) : Prop :=
  ∀ row inherited element result, Expands setting t row inherited element result →
    (t.sketch setting.language row).Describes (result.statements setting.language)
      (result.diagnostics setting.language)

theorem describes_fact (inside : ∀ part ∈ subtemplates, Followed setting part.2.2)
    {rule : Rule} {fact : Fact} {subject type : String}
    (becomes : Becomes setting options row ids (subtemplatesOf setting subtemplates) rule fact) :
    (rule.sketch setting.language row (sketchesOf setting.language subtemplates) type).Describes
      (fact.statements setting.language subject type)
      (fact.diagnostics setting.language subject) := by
  obtain ⟨target, predicates⟩ := rule
  cases target with
  | type =>
      cases becomes
      exact ⟨.cons .type .nil, rfl⟩
  | symbol name =>
      cases becomes
      exact describes_relate
  | column name =>
      cases becomes
      exact describes_values
  | repeated name symbol =>
      obtain ⟨iteration, inner, occurrences, found, rfl, repeats⟩ := becomes.of_rule
      simp only [Rule.sketch, lookup_sketchesOf, found, Option.map_some]
      refine describes_occurrences repeats ?_
      rintro ⟨element, i⟩ ⟨id, scope⟩ ⟨_, seed, _, entered⟩
      exact inside (name, iteration, inner) (mem_of_lookup found) _ _ _ _ entered

theorem describes_facts (inside : ∀ part ∈ subtemplates, Followed setting part.2.2)
    {rules : List Rule} {facts : List Fact} {subject type : String}
    (become : List.Forall₂ (Becomes setting options row ids (subtemplatesOf setting subtemplates))
      rules facts) :
    (Sketch.join (rules.map (Rule.sketch setting.language row
        (sketchesOf setting.language subtemplates) type))).Describes
      (statementsOfFacts setting.language subject type facts)
      (diagnosticsOfFacts setting.language subject facts) := by
  induction become with
  | nil => exact .nil
  | cons first _ ih => exact (describes_fact inside first).append ih

theorem describes_entities (inside : ∀ part ∈ subtemplates, Followed setting part.2.2)
    {entries : List Entry} {entities : List Entity}
    (instantiate : List.Forall₂ (Instantiates setting options row ids
      (subtemplatesOf setting subtemplates)) entries entities) :
    (Sketch.join (entries.map (Entry.sketch setting.language row
        (sketchesOf setting.language subtemplates)))).Describes
      (statementsOfEntities setting.language entities)
      (diagnosticsOfEntities setting.language entities) := by
  induction instantiate with
  | nil => exact .nil
  | @cons entry entity _ _ first _ ih =>
      obtain ⟨id, type, facts⟩ := entity
      obtain rfl : type = entry.type := first.type
      exact (describes_facts inside first.facts).append ih

/-- Without a geocoder every expansion follows the sketch: by induction on the template, for what
was repeated follows its own sketch. -/
theorem followed (absent : setting.geocoder = none) (t : Template) : Followed setting t := by
  induction t using Template.nested with
  | step t inside =>
      intro row inherited element result expands
      have silent : result.lookups.flatMap (Lookup.candidates setting.language) = [] := by
        rw [List.flatMap_eq_nil_iff]
        exact fun lookup member => expands.not_offered absent member setting.language
      obtain ⟨_, _, looked⟩ := expands.lookups
      have known : ∀ entry ∈ t.entries, entry.symbol ∈ Entries.names result.identifiers :=
        fun entry member => (expands.run.1.names _).mpr
          (.inr (mem_declaredSymbols.mpr (List.mem_map_of_mem member)))
      have diagnostics := diagnostics_of_lookUpAll absent known looked
      have entities := describes_entities inside expands.run.2
      obtain ⟨entries, subtemplates, bindings, options⟩ := t
      obtain ⟨ids, lookups, instantiated⟩ := result
      have silent : lookups.flatMap (Lookup.candidates setting.language) = [] := silent
      rw [Scope.statements, silent, fillSlots, Scope.diagnostics]
      exact .append ⟨.nil, diagnostics⟩ entities

end Scopes

end Following

/-- Two statements of one sketch have the same predicate and, unless they are links, the same
object. -/
theorem StatementSketch.Fits.agree {sketch : StatementSketch} {s s' : Statement} (h : sketch.Fits s)
    (h' : sketch.Fits s') :
    s.predicate = s'.predicate ∧
      (s.object = s'.object ∨ ∃ predicate, sketch = .link predicate) := by
  cases h <;> cases h'
  · exact ⟨rfl, .inl rfl⟩
  · exact ⟨rfl, .inr ⟨_, rfl⟩⟩
  · exact ⟨rfl, .inl rfl⟩

/-- The mode changes identifiers and nothing else. Without a geocoder, any two expansions of a row,
in whatever modes and with whatever was taken from outside before, follow the sketch that the
template draws for the row. So they have equally many statements, and at each place the same
predicate and, unless the sketch has a link there, the same class or literal; and their diagnostics
are the same apart from the subjects. -/
theorem expansions_follow_sketch (setting setting' : Setting) (t : Template) (header : Header)
    (cells : List Datum) (progress progress' : Progress) (expansion expansion' : Expansion)
    (language : setting'.language = setting.language) (absent : setting.geocoder = none)
    (absent' : setting'.geocoder = none)
    (done : (expandRow setting t header cells progress).1 = .ok expansion)
    (done' : (expandRow setting' t header cells progress').1 = .ok expansion') :
    let sketch := t.sketch setting.language { header, cells }
    sketch.Describes expansion.statements expansion.diagnostics ∧
    sketch.Describes expansion'.statements expansion'.diagnostics ∧
    expansion.statements.length = expansion'.statements.length ∧
    (∀ (i : Nat) (s s' : Statement), expansion.statements[i]? = some s →
      expansion'.statements[i]? = some s' →
      s.predicate = s'.predicate ∧
        (s.object = s'.object ∨ ∃ predicate, sketch.statements[i]? = some (.link predicate))) ∧
    expansion.diagnostics.map (Diagnostic.withSubject "") =
      expansion'.diagnostics.map (Diagnostic.withSubject "") := by
  intro sketch
  have follows : sketch.Describes expansion.statements expansion.diagnostics := by
    obtain ⟨result, _, yields, rfl⟩ := exists_scope_of_expandRow done
    exact followed absent t _ _ _ _ ⟨_, _, yields⟩
  have follows' : sketch.Describes expansion'.statements expansion'.diagnostics := by
    obtain ⟨result, _, yields, rfl⟩ := exists_scope_of_expandRow done'
    have described := followed absent' t _ _ _ _ ⟨_, _, yields⟩
    rw [language] at described
    rw [Scope.expansion, language]
    exact described
  refine ⟨follows, follows', ?_, ?_, follows.diagnostics.trans follows'.diagnostics.symm⟩
  · rw [← follows.statements.length_eq, ← follows'.statements.length_eq]
  · intro i s s' found found'
    obtain ⟨form, sketched, fits⟩ := exists_of_getElem?_right follows.statements found
    obtain ⟨form', sketched', fits'⟩ := exists_of_getElem?_right follows'.statements found'
    obtain rfl : form = form' := Option.some.inj (sketched.symm.trans sketched')
    obtain ⟨predicate, object | ⟨link, rfl⟩⟩ := fits.agree fits'
    · exact ⟨predicate, .inl object⟩
    · exact ⟨predicate, .inr ⟨link, sketched⟩⟩

/-- A kennel under random identifiers and under identifiers by content. -/
theorem expansions_follow_sketch_kennel :
    globalSetting.language = recordSetting.language ∧ recordSetting.geocoder = none ∧
    globalSetting.geocoder = none ∧ ∃ expansion expansion',
      (expandRow recordSetting kennelTemplate ⟨["name", "pets"]⟩
        [.text "Ada", .list [.text "Rex", .text "Tom"]] {}).1 = .ok expansion ∧
      (expandRow globalSetting kennelTemplate ⟨["name", "pets"]⟩
        [.text "Ada", .list [.text "Rex", .text "Tom"]] {}).1 = .ok expansion' ∧
      expansion.statements.length = expansion'.statements.length ∧
      expansion.diagnostics.map (Diagnostic.withSubject "") =
        expansion'.diagnostics.map (Diagnostic.withSubject "") := by
  have done : ∃ expansion, (expandRow recordSetting kennelTemplate ⟨["name", "pets"]⟩
      [.text "Ada", .list [.text "Rex", .text "Tom"]] {}).1 = .ok expansion := ⟨_, rfl⟩
  have done' : ∃ expansion, (expandRow globalSetting kennelTemplate ⟨["name", "pets"]⟩
      [.text "Ada", .list [.text "Rex", .text "Tom"]] {}).1 = .ok expansion := ⟨_, rfl⟩
  obtain ⟨expansion, done⟩ := done
  obtain ⟨expansion', done'⟩ := done'
  obtain ⟨_, _, length, _, diagnostics⟩ := expansions_follow_sketch recordSetting globalSetting
    kennelTemplate _ _ {} {} expansion expansion' rfl rfl rfl done done'
  exact ⟨rfl, rfl, rfl, expansion, expansion', done, done', length, diagnostics⟩

end RowTriples
