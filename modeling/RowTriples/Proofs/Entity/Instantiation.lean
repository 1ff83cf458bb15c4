import RowTriples.Proofs.Entity.Contract
/-!
# What a template becomes

An execution of a template leaves a scope of the same shape: an entity for every entry, a fact for
every rule, and a repetition for every element. The relations here say of each part what it becomes,
without the order of execution and without what is taken from outside.

In the other direction a template succeeds if its parts do. The identifiers with which a repetition
is entered are the only thing that an outer scope contributes to an inner one.
-/

namespace RowTriples

namespace Expanding

variable {setting : Setting} {options : Options} {row : Row} {ids : Identifiers} {parts : Parts}
variable {progress progress' : Progress}

/-! ### Repetitions -/

/-- The identifiers with which a repetition is entered. -/
def seedFor (setting : Setting) (options : Options) (inner : Row) (ids : Identifiers)
    (symbol : String) (i : Nat) : Expanding Identifiers :=
  if setting.mode.isDeterministic then pure ids
  else do
    let id ← positionalId setting options inner (some i) symbol
    return Entries.put symbol id ids

/-- The identifiers are those of the scope around, where content decides; else the linked symbol has
another one besides, from the position of the repetition. -/
def Seeds (setting : Setting) (options : Options) (inner : Row) (ids : Identifiers)
    (symbol : String) (i : Nat) (seed : Identifiers) : Prop :=
  (setting.mode.isDeterministic = true ∧ seed = ids) ∨
  (setting.mode.isDeterministic = false ∧ ∃ id, seed = Entries.put symbol id ids ∧
    (IdSource.of options inner ⟨setting.file, setting.row, some i⟩ symbol).Gives setting.fresh id)

/-- A repetition, with the identifier it is linked by, is what a subtemplate comes to for a numbered
element. -/
def Repeats (setting : Setting) (options : Options) (row : Row) (ids : Identifiers)
    (symbol variableName : String) (meaning : Meaning) (element : Datum × Nat)
    (occurrence : String × Scope) : Prop :=
  let inner := row.bind variableName element.1 .iteration
  Entries.get? symbol occurrence.2.identifiers = some occurrence.1 ∧
  ∃ seed, Seeds setting options inner ids symbol element.2 seed ∧ ∃ progress progress',
    Yields (meaning inner seed (some element.2)) progress occurrence.2 progress'

section Repetition

variable {subtemplate symbol variableName : String} {meaning : Meaning} {i : Nat}

theorem yields_seedFor {inner : Row} {seed : Identifiers}
    (yields : Yields (seedFor setting options inner ids symbol i) progress seed progress') :
    Seeds setting options inner ids symbol i seed := by
  unfold seedFor at yields
  split at yields
  next mode => exact .inl ⟨mode, (yields_pure.mp yields).1.symm⟩
  next mode =>
    obtain ⟨id, _, minted, yields⟩ := yields_bind.mp yields
    exact .inr ⟨by simpa using mode, id, (yields_pure.mp yields).1.symm, yields_positionalId minted⟩

theorem succeeds_seedFor {inner : Row} :
    Succeeds (seedFor setting options inner ids symbol i)
      (Seeds setting options inner ids symbol i) := by
  have enters : Succeeds (seedFor setting options inner ids symbol i) fun _ => True := by
    unfold seedFor
    split
    · exact .pure trivial
    · exact succeeds_positionalId.bind fun _ _ => .pure trivial
  exact enters.of_yields fun _ _ _ => yields_seedFor

/-- A seed has the names of the scope around and, where identifiers do not depend on content, the
linked symbol. -/
theorem Seeds.names {inner : Row} {seed : Identifiers}
    (h : Seeds setting options inner ids symbol i seed) (name : String) :
    name ∈ Entries.names seed ↔ name ∈ Entries.names ids ∨
      (setting.mode.isDeterministic = false ∧ name = symbol) := by
  rcases h with ⟨mode, rfl⟩ | ⟨mode, id, rfl, _⟩
  · simp [mode]
  · rw [Entries.names_put]
    split
    next known => exact ⟨.inl, fun h => h.elim (fun h => h) fun same => same.2 ▸ known⟩
    next => simp [mode]

theorem repeatFor_cons {value : Datum} {values : List Datum} :
    repeatFor setting options row ids subtemplate symbol variableName meaning i (value :: values) =
      seedFor setting options (row.bind variableName value .iteration) ids symbol i >>= fun seed =>
      meaning (row.bind variableName value .iteration) seed (some i) >>= fun scope =>
      match Entries.get? symbol scope.identifiers with
      | none => throw (.unresolvedLink subtemplate symbol)
      | some id =>
        repeatFor setting options row ids subtemplate symbol variableName meaning (i + 1) values >>=
          fun others => pure ((id, scope) :: others) := by
  rw [repeatFor, seedFor]
  split
  · rfl
  · exact (bind_assoc _ _ _).symm

/-- The execution of a repetition: the linked symbol gets its identifier if it needs one, and then
the subtemplate is entered. -/
def RepeatsFrom (setting : Setting) (options : Options) (row : Row) (ids : Identifiers)
    (symbol variableName : String) (meaning : Meaning) (element : Datum × Nat)
    (occurrence : String × Scope) (progress progress' : Progress) : Prop :=
  let inner := row.bind variableName element.1 .iteration
  Entries.get? symbol occurrence.2.identifiers = some occurrence.1 ∧
  ∃ seed middle, Yields (seedFor setting options inner ids symbol element.2) progress seed middle ∧
    Yields (meaning inner seed (some element.2)) middle occurrence.2 progress'

theorem threaded_repeatFor {values : List Datum} {occurrences : List (String × Scope)}
    (yields : Yields (repeatFor setting options row ids subtemplate symbol variableName meaning i
      values) progress occurrences progress') :
    Threaded (RepeatsFrom setting options row ids symbol variableName meaning) (values.zipIdx i)
      occurrences progress progress' := by
  induction values generalizing i progress progress' occurrences with
  | nil =>
      obtain ⟨rfl, rfl⟩ := yields_pure.mp yields
      exact .nil
  | cons value values ih =>
      rw [repeatFor_cons] at yields
      obtain ⟨seed, _, seeded, yields⟩ := yields_bind.mp yields
      obtain ⟨scope, _, entered, yields⟩ := yields_bind.mp yields
      split at yields
      next => exact absurd yields not_yields_throw
      next id found =>
        obtain ⟨others, _, rest, yields⟩ := yields_bind.mp yields
        obtain ⟨rfl, rfl⟩ := yields_pure.mp yields
        rw [List.zipIdx_cons]
        exact .cons ⟨found, seed, _, seeded, entered⟩ (ih rest)

theorem yields_repeatFor {values : List Datum} {occurrences : List (String × Scope)}
    (yields : Yields (repeatFor setting options row ids subtemplate symbol variableName meaning i
      values) progress occurrences progress') :
    List.Forall₂ (Repeats setting options row ids symbol variableName meaning) (values.zipIdx i)
      occurrences := by
  refine (threaded_repeatFor yields).forall₂ ?_
  rintro _ _ _ _ ⟨found, seed, _, seeded, entered⟩
  exact ⟨found, seed, yields_seedFor seeded, _, _, entered⟩

/-- A subtemplate can be repeated if, however it is entered for each numbered element, it comes to a
scope that knows the linked symbol. -/
theorem succeeds_repeatFor {values : List Datum}
    (enters : ∀ value k, (value, k) ∈ values.zipIdx i → ∀ seed,
      Seeds setting options (row.bind variableName value .iteration) ids symbol k seed →
      Succeeds (meaning (row.bind variableName value .iteration) seed (some k))
        fun scope => symbol ∈ Entries.names scope.identifiers) :
    Succeeds (repeatFor setting options row ids subtemplate symbol variableName meaning i values)
      fun _ => True := by
  induction values generalizing i with
  | nil => exact .pure trivial
  | cons value values ih =>
      rw [List.zipIdx_cons] at enters
      have here := enters value i List.mem_cons_self
      have others := ih fun value k numbered => enters value k (List.mem_cons_of_mem _ numbered)
      rw [repeatFor_cons]
      refine succeeds_seedFor.bind fun seed seeds => (here seed seeds).bind ?_
      intro scope known
      obtain ⟨id, found⟩ := Entries.exists_get?_of_mem known
      simp only [found]
      exact others.bind fun _ _ => .pure trivial

end Repetition

/-! ### Facts and entities -/

/-- What a rule becomes. -/
inductive Becomes (setting : Setting) (options : Options) (row : Row) (ids : Identifiers)
    (parts : Parts) : Rule → Fact → Prop where
  | type {predicates : List String} :
      Becomes setting options row ids parts ⟨.type, predicates⟩ .type
  | link {name id : String} {predicates : List String} (known : Entries.get? name ids = some id) :
      Becomes setting options row ids parts ⟨.symbol name, predicates⟩ (.link predicates id)
  | values {name : String} {predicates : List String} :
      Becomes setting options row ids parts ⟨.column name, predicates⟩
        (.values predicates (row.values name))
  | repeated {name symbol : String} {predicates : List String} {iteration : Iteration}
      {meaning : Meaning} {occurrences : List (String × Scope)}
      (part : parts.lookup name = some (iteration, meaning))
      (repeats : List.Forall₂
        (Repeats setting options row ids symbol iteration.variableName meaning)
        (row.values iteration.source).zipIdx occurrences) :
      Becomes setting options row ids parts ⟨.repeated name symbol, predicates⟩
        (.repeated predicates occurrences)

/-- An entry becomes an entity with its class and the identifier of its symbol. -/
structure Instantiates (setting : Setting) (options : Options) (row : Row) (ids : Identifiers)
    (parts : Parts) (entry : Entry) (entity : Entity) : Prop where
  type : entity.type = entry.type
  id : Entries.get? entry.symbol ids = some entity.id
  facts : List.Forall₂ (Becomes setting options row ids parts) entry.rules entity.facts

theorem yields_fact {entry : Entry} {rule : Rule} {result : Fact}
    (yields : Yields (fact setting options row ids parts entry rule) progress result progress') :
    Becomes setting options row ids parts rule result := by
  obtain ⟨target, predicates⟩ := rule
  cases target with
  | type =>
      obtain ⟨rfl, _⟩ := yields_pure.mp yields
      exact .type
  | column name =>
      obtain ⟨rfl, _⟩ := yields_pure.mp yields
      exact .values
  | symbol name =>
      obtain ⟨id, _, found, yields⟩ := yields_bind.mp yields
      obtain ⟨rfl, _⟩ := yields_pure.mp yields
      exact .link (yields_require.mp found).1
  | repeated name symbol =>
      simp only [fact] at yields
      split at yields
      next => exact absurd yields not_yields_throw
      next iteration meaning part =>
        obtain ⟨occurrences, _, repeated, yields⟩ := yields_bind.mp yields
        obtain ⟨rfl, _⟩ := yields_pure.mp yields
        exact .repeated part (yields_repeatFor repeated)

def BecomesFrom (setting : Setting) (options : Options) (row : Row) (ids : Identifiers)
    (parts : Parts) (entry : Entry) (rule : Rule) (result : Fact) (progress progress' : Progress) :
    Prop :=
  Yields (fact setting options row ids parts entry rule) progress result progress'

theorem threaded_facts {entry : Entry} {rules : List Rule} {results : List Fact}
    (yields : Yields (facts setting options row ids parts entry rules) progress results progress') :
    Threaded (BecomesFrom setting options row ids parts entry) rules results progress
      progress' := by
  induction rules generalizing progress progress' results with
  | nil =>
      obtain ⟨rfl, rfl⟩ := yields_pure.mp yields
      exact .nil
  | cons rule rules ih =>
      obtain ⟨first, _, head, yields⟩ := yields_bind.mp yields
      obtain ⟨others, _, tail, yields⟩ := yields_bind.mp yields
      obtain ⟨rfl, rfl⟩ := yields_pure.mp yields
      exact .cons head (ih tail)

/-- The execution of an entry: its symbol has an identifier, and its rules become facts. -/
structure InstantiatesFrom (setting : Setting) (options : Options) (row : Row) (ids : Identifiers)
    (parts : Parts) (entry : Entry) (entity : Entity) (progress progress' : Progress) : Prop where
  type : entity.type = entry.type
  id : Entries.get? entry.symbol ids = some entity.id
  facts :
    Threaded (BecomesFrom setting options row ids parts entry) entry.rules entity.facts progress
      progress'

theorem threaded_entities {entries : List Entry} {results : List Entity}
    (yields : Yields (entities setting options row ids parts entries) progress results progress') :
    Threaded (InstantiatesFrom setting options row ids parts) entries results progress
      progress' := by
  induction entries generalizing progress progress' results with
  | nil =>
      obtain ⟨rfl, rfl⟩ := yields_pure.mp yields
      exact .nil
  | cons entry entries ih =>
      obtain ⟨id, _, required, yields⟩ := yields_bind.mp yields
      obtain ⟨known, _, head, yields⟩ := yields_bind.mp yields
      obtain ⟨others, _, tail, yields⟩ := yields_bind.mp yields
      obtain ⟨rfl, rfl⟩ := yields_pure.mp yields
      obtain ⟨found, rfl⟩ := yields_require.mp required
      exact .cons ⟨rfl, found, threaded_facts head⟩ (ih tail)

theorem yields_entities {entries : List Entry} {results : List Entity}
    (yields : Yields (entities setting options row ids parts entries) progress results progress') :
    List.Forall₂ (Instantiates setting options row ids parts) entries results := by
  refine (threaded_entities yields).forall₂ ?_
  rintro entry entity _ _ ⟨type, id, facts⟩
  exact ⟨type, id, facts.forall₂ fun _ _ _ _ => yields_fact⟩

/-- A rule becomes a fact if the symbol that it links to has an identifier, and the subtemplate that
it repeats can be entered and knows the linked symbol. -/
theorem succeeds_fact {entry : Entry} {rule : Rule}
    (links : ∀ name, rule.target = .symbol name → name ∈ Entries.names ids)
    (repeats : ∀ name symbol, rule.target = .repeated name symbol →
      ∃ iteration meaning, parts.lookup name = some (iteration, meaning) ∧
        ∀ value i, (row.values iteration.source)[i]? = some value → ∀ seed,
          let inner := row.bind iteration.variableName value .iteration
          Seeds setting options inner ids symbol i seed →
            Succeeds (meaning inner seed (some i))
              fun scope => symbol ∈ Entries.names scope.identifiers) :
    Succeeds (fact setting options row ids parts entry rule) fun _ => True := by
  obtain ⟨target, predicates⟩ := rule
  cases target with
  | type => exact .pure trivial
  | column name => exact .pure trivial
  | symbol name => exact (succeeds_require (links name rfl)).bind fun _ _ => .pure trivial
  | repeated name symbol =>
      obtain ⟨iteration, meaning, part, enters⟩ := repeats name symbol rfl
      simp only [fact, part]
      refine (succeeds_repeatFor fun value i numbered => ?_).bind fun _ _ => .pure trivial
      exact enters value i (List.mk_mem_zipIdx_iff_getElem?.mp numbered)

/-- A list of rules becomes facts if each rule does. -/
theorem succeeds_facts {entry : Entry} {rules : List Rule}
    (each : ∀ rule ∈ rules,
      Succeeds (fact setting options row ids parts entry rule) fun _ => True) :
    Succeeds (facts setting options row ids parts entry rules) fun _ => True := by
  induction rules with
  | nil => exact .pure trivial
  | cons rule rules ih =>
      refine (each rule List.mem_cons_self).bind fun _ _ => ?_
      exact (ih fun other member => each other (List.mem_cons_of_mem _ member)).bind
        fun _ _ => .pure trivial

/-- Entries become entities if their symbols have identifiers and each of their rules becomes a
fact. -/
theorem succeeds_entities {entries : List Entry}
    (named : ∀ entry ∈ entries, entry.symbol ∈ Entries.names ids)
    (each : ∀ entry ∈ entries, ∀ rule ∈ entry.rules,
      Succeeds (fact setting options row ids parts entry rule) fun _ => True) :
    Succeeds (entities setting options row ids parts entries) fun _ => True := by
  induction entries with
  | nil => exact .pure trivial
  | cons entry entries ih =>
      refine (succeeds_require (named entry List.mem_cons_self)).bind fun _ _ => ?_
      refine (succeeds_facts (each entry List.mem_cons_self)).bind fun _ _ => ?_
      refine (ih (fun other member => named other (List.mem_cons_of_mem _ member))
        fun other member => each other (List.mem_cons_of_mem _ member)).bind ?_
      exact fun _ _ => .pure trivial

/-! ### Scopes -/

variable {t : Template} {inherited : Identifiers} {element : Option Nat} {result : Scope}

theorem subtemplatesOf_eq_map {subtemplates : List (String × Iteration × Template)} :
    subtemplatesOf setting subtemplates =
      subtemplates.map fun part => (part.1, part.2.1, template setting part.2.2) := by
  induction subtemplates with
  | nil => rfl
  | cons part subtemplates ih => rw [subtemplatesOf, ih, List.map_cons]

theorem lookup_subtemplatesOf (subtemplates : List (String × Iteration × Template))
    (name : String) :
    (subtemplatesOf setting subtemplates).lookup name =
      (subtemplates.lookup name).map fun part => (part.1, template setting part.2) := by
  induction subtemplates with
  | nil => rfl
  | cons head subtemplates ih =>
      obtain ⟨key, iteration, inner⟩ := head
      simp only [subtemplatesOf, List.lookup_cons]
      split
      · rfl
      · exact ih

/-- The scope is what the template comes to for a row, identifiers around it, and an element. -/
def Expands (setting : Setting) (t : Template) (row : Row) (inherited : Identifiers)
    (element : Option Nat) (result : Scope) : Prop :=
  ∃ progress progress', Yields (template setting t row inherited element) progress result progress'

/-- The identifiers of a scope are those that the inherited ones are completed to. -/
def Identifies (setting : Setting) (t : Template) (row : Row) (inherited : Identifiers)
    (element : Option Nat) (ids : Identifiers) : Prop :=
  ∃ progress progress', Yields (identify setting t.entries t.options (row.derive t.bindings) element
    inherited) progress ids progress'

namespace Identifies

theorem names (h : Identifies setting t row inherited element ids) (name : String) :
    name ∈ Entries.names ids ↔ name ∈ Entries.names inherited ∨ name ∈ t.symbols := by
  obtain ⟨_, _, yields⟩ := h
  exact names_identify yields name

theorem kept (h : Identifies setting t row inherited element ids) {name : String}
    (known : name ∈ Entries.names inherited) :
    Entries.get? name ids = Entries.get? name inherited := by
  obtain ⟨_, _, yields⟩ := h
  exact kept_identify yields known

theorem acyclic (h : Identifies setting t row inherited element ids)
    (deterministic : setting.mode.isDeterministic = true) :
    ¬HasCycle (·.IsPending (row.derive t.bindings) t.entries inherited) := by
  obtain ⟨_, _, yields⟩ := h
  exact not_hasCycle_of_identify deterministic yields

end Identifies

section Repeated

variable {subtemplates : List (String × Iteration × Template)} {predicates : List String}

/-- A rule that repeats a subtemplate becomes the repetitions of a template. -/
theorem Becomes.of_rule {name symbol : String} {fact : Fact}
    (h : Becomes setting options row ids (subtemplatesOf setting subtemplates)
      ⟨.repeated name symbol, predicates⟩ fact) :
    ∃ iteration inner occurrences, subtemplates.lookup name = some (iteration, inner) ∧
      fact = .repeated predicates occurrences ∧
      List.Forall₂ (Repeats setting options row ids symbol iteration.variableName
        (template setting inner)) (row.values iteration.source).zipIdx occurrences := by
  cases h with
  | repeated part repeats =>
      rw [lookup_subtemplatesOf] at part
      obtain ⟨⟨iteration, inner⟩, found, same⟩ := Option.map_eq_some_iff.mp part
      cases same
      exact ⟨iteration, inner, _, found, rfl, repeats⟩

/-- Only a rule that repeats a subtemplate becomes repetitions. -/
theorem Becomes.of_fact {rule : Rule} {occurrences : List (String × Scope)}
    (h : Becomes setting options row ids (subtemplatesOf setting subtemplates) rule
      (.repeated predicates occurrences)) :
    ∃ name symbol iteration inner, rule = ⟨.repeated name symbol, predicates⟩ ∧
      subtemplates.lookup name = some (iteration, inner) ∧
      List.Forall₂ (Repeats setting options row ids symbol iteration.variableName
        (template setting inner)) (row.values iteration.source).zipIdx occurrences := by
  obtain ⟨target, predicates'⟩ := rule
  obtain ⟨name, symbol, rfl⟩ : ∃ name symbol, target = .repeated name symbol := by
    cases h with
    | repeated => exact ⟨_, _, rfl⟩
  obtain ⟨iteration, inner, occurrences', found, same, repeats⟩ := h.of_rule
  cases same
  exact ⟨name, symbol, iteration, inner, rfl, found, repeats⟩

end Repeated

/-- The execution of a template: its symbols are identified, the addresses of its entries are looked
up, and its entries become entities. -/
theorem yields_template (yields : Yields (template setting t row inherited element) progress result
      progress') :
    ∃ middle middle',
      Yields (identify setting t.entries t.options (row.derive t.bindings) element inherited)
        progress result.identifiers middle ∧
      Yields (lookUpAll setting t.options (row.derive t.bindings) result.identifiers t.entries)
        middle result.lookups middle' ∧
      Yields (entities setting t.options (row.derive t.bindings) result.identifiers
        (subtemplatesOf setting t.subtemplates) t.entries) middle' result.entities progress' := by
  obtain ⟨entries, subtemplates, bindings, options⟩ := t
  simp only [template, scope] at yields
  obtain ⟨ids, middle, identified, yields⟩ := yields_bind.mp yields
  obtain ⟨lookups, middle', looked, yields⟩ := yields_bind.mp yields
  obtain ⟨known, _, entered, yields⟩ := yields_bind.mp yields
  obtain ⟨rfl, rfl⟩ := yields_pure.mp yields
  exact ⟨middle, middle', identified, looked, entered⟩

/-- A template that expands has identified its symbols and has instantiated its entries. -/
theorem Expands.run (h : Expands setting t row inherited element result) :
    Identifies setting t row inherited element result.identifiers ∧
    List.Forall₂ (Instantiates setting t.options (row.derive t.bindings) result.identifiers
      (subtemplatesOf setting t.subtemplates)) t.entries result.entities := by
  obtain ⟨progress, progress', yields⟩ := h
  obtain ⟨_, _, identified, _, entered⟩ := yields_template yields
  exact ⟨⟨_, _, identified⟩, yields_entities entered⟩

/-- A template expands if its scope can be identified and each of its rules becomes a fact. -/
theorem succeeds_template
    (sound : setting.mode.isDeterministic = true →
      ¬HasDanglingLink (row.derive t.bindings) t.entries inherited)
    (acyclic : setting.mode.isDeterministic = true →
      ¬HasCycle (·.IsPending (row.derive t.bindings) t.entries inherited))
    (each : ∀ ids, Identifies setting t row inherited element ids →
      ∀ entry ∈ t.entries, ∀ rule ∈ entry.rules,
        Succeeds (fact setting t.options (row.derive t.bindings) ids
          (subtemplatesOf setting t.subtemplates) entry rule) fun _ => True) :
    Succeeds (template setting t row inherited element) fun result =>
      ∀ name, name ∈ Entries.names inherited ∨ name ∈ t.symbols →
        name ∈ Entries.names result.identifiers := by
  have expands : Succeeds (template setting t row inherited element) fun _ => True := by
    obtain ⟨entries, subtemplates, bindings, options⟩ := t
    simp only [template, scope]
    have identifies : Succeeds (identify setting entries options (row.derive bindings) element
        inherited) (Identifies setting ⟨entries, subtemplates, bindings, options⟩ row inherited
          element) :=
      (succeeds_identify sound acyclic).of_yields fun _ _ _ yields => ⟨_, _, yields⟩
    refine identifies.bind fun ids identified => ?_
    refine succeeds_lookUpAll.bind fun _ _ => ?_
    refine (succeeds_entities ?_ (each ids identified)).bind fun _ _ => .pure trivial
    intro entry member
    exact (identified.names _).mpr (.inr (mem_declaredSymbols.mpr (List.mem_map_of_mem member)))
  refine expands.of_yields fun progress result progress' yields => ?_
  have expanded : Expands setting t row inherited element result := ⟨progress, progress', yields⟩
  exact fun name => (expanded.run.1.names name).mpr

end Expanding

end RowTriples
