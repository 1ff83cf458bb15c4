import RowTriples.Proofs.Entity.Instantiation
import RowTriples.Proofs.Template.Loaded
/-!
# Expansions that take nothing from outside

Where content decides and there is no geocoder, nothing is taken from outside: no random identifier,
no answer to a query. Every step then has one outcome, which does not depend on what was expanded
before, and a template has one meaning for a row and the identifiers around it. The number of the
element, from which positional identifiers are made, plays no part either.
-/

namespace RowTriples

namespace Expanding

variable {α β : Type}

/-- The step has one outcome, whatever was taken from outside before, and takes nothing itself. -/
def Steady (step : Expanding α) : Prop :=
  ∃ outcome : Except ExpansionError α, ∀ progress,
    (step.run progress : Except ExpansionError α × Progress) = (outcome, progress)

/-- The step yields the value, whatever was taken from outside before, and takes nothing itself. -/
def Always (step : Expanding α) (value : α) : Prop :=
  ∀ progress, Yields step progress value progress

/-! ### Rules -/

section Rules

variable {step : Expanding α} {next : α → Expanding β}

theorem Steady.pure {value : α} : Steady (pure value) :=
  ⟨.ok value, fun _ => rfl⟩

theorem Steady.throw {error : ExpansionError} : Steady (throw error : Expanding α) :=
  ⟨.error error, fun _ => rfl⟩

theorem Steady.always (h : Steady step) {progress progress' : Progress} {value : α}
    (yields : Yields step progress value progress') : Always step value := by
  obtain ⟨outcome, runs⟩ := h
  rw [Yields, runs] at yields
  cases yields
  exact runs

theorem Always.unique {value value' : α} (h : Always step value) (h' : Always step value') :
    value = value' := by
  have same := (h {}).symm.trans (h' {})
  cases same
  rfl

theorem Always.pure {value : α} : Always (pure value) value :=
  fun _ => rfl

theorem Always.bind {middle : α} {value : β} (first : Always step middle)
    (second : Always (next middle) value) : Always (step >>= next) value :=
  fun progress => yields_bind.mpr ⟨middle, progress, first progress, second progress⟩

theorem Always.succeeds {value : α} {post : α → Prop} (h : Always step value)
    (holds : post value) : Succeeds step post :=
  fun progress => ⟨value, progress, h progress, holds⟩

/-- What always comes of two steps comes of the second after what always comes of the first. -/
theorem Steady.of_bind (h : Steady step) {value : β} (both : Always (step >>= next) value) :
    ∃ middle, Always step middle ∧ Always (next middle) value := by
  obtain ⟨middle, _, first, _⟩ := yields_bind.mp (both {})
  have always := h.always first
  refine ⟨middle, always, fun progress => ?_⟩
  obtain ⟨_, _, first, second⟩ := yields_bind.mp (both progress)
  have same := (always progress).symm.trans first
  cases same
  exact second

theorem Steady.bind (first : Steady step) (rest : ∀ value, Steady (next value)) :
    Steady (step >>= next) := by
  obtain ⟨outcome, runs⟩ := first
  have run (progress : Progress) :
      ((step >>= next).run progress : Except ExpansionError β × Progress) =
        ExceptT.bindCont next outcome progress := by
    change (match (step.run progress : Except ExpansionError α × Progress) with
      | (result, progress') => ExceptT.bindCont next result progress') = _
    rw [runs]
  cases outcome with
  | error cause => exact ⟨.error cause, fun progress => run progress⟩
  | ok middle =>
      obtain ⟨outcome', runs'⟩ := rest middle
      exact ⟨outcome', fun progress => (run progress).trans (runs' progress)⟩

end Rules

/-! ### Templates -/

section Templates

variable {setting : Setting} {options : Options} {row : Row} {ids inherited : Identifiers}
variable {parts : Parts} {element : Option Nat}

theorem steady_identify (deterministic : setting.mode.isDeterministic = true)
    {entries : List Entry} : Steady (identify setting entries options row element inherited) := by
  unfold identify
  rw [if_pos deterministic]
  exact ⟨_, fun _ => rfl⟩

theorem steady_lookUpAll (absent : setting.geocoder = none) {entries : List Entry} :
    Steady (lookUpAll setting options row ids entries) := by
  induction entries with
  | nil => exact .pure
  | cons entry entries ih =>
      unfold lookUpAll
      split
      · simp only [lookUp, absent]
        exact Steady.pure.bind fun _ => ih.bind fun _ => .pure
      · exact ih

theorem steady_require {symbol referencedBy : String} :
    Steady (require ids symbol referencedBy) := by
  unfold require
  split
  · exact .pure
  · exact .throw

theorem seedFor_deterministic (deterministic : setting.mode.isDeterministic = true) {inner : Row}
    {symbol : String} {i : Nat} : seedFor setting options inner ids symbol i = pure ids :=
  if_pos deterministic

theorem steady_repeatFor (deterministic : setting.mode.isDeterministic = true)
    {subtemplate symbol variableName : String} {meaning : Meaning} {i : Nat} {values : List Datum}
    (steady : ∀ row ids element, Steady (meaning row ids element)) :
    Steady
      (repeatFor setting options row ids subtemplate symbol variableName meaning i values) := by
  induction values generalizing i with
  | nil => exact .pure
  | cons value values ih =>
      rw [repeatFor_cons, seedFor_deterministic deterministic, pure_bind]
      refine (steady _ _ _).bind fun scope => ?_
      split
      · exact .throw
      · exact ih.bind fun _ => .pure

theorem steady_fact (deterministic : setting.mode.isDeterministic = true)
    (steady : ∀ name iteration meaning, parts.lookup name = some (iteration, meaning) →
      ∀ row ids element, Steady (meaning row ids element))
    {entry : Entry} {rule : Rule} : Steady (fact setting options row ids parts entry rule) := by
  obtain ⟨target, predicates⟩ := rule
  cases target with
  | type => exact .pure
  | column name => exact .pure
  | symbol name => exact steady_require.bind fun _ => .pure
  | repeated name symbol =>
      simp only [fact]
      split
      · exact .throw
      · next found =>
        exact (steady_repeatFor deterministic (steady _ _ _ found)).bind fun _ => .pure

theorem steady_facts (deterministic : setting.mode.isDeterministic = true)
    (steady : ∀ name iteration meaning, parts.lookup name = some (iteration, meaning) →
      ∀ row ids element, Steady (meaning row ids element))
    {entry : Entry} {rules : List Rule} :
    Steady (facts setting options row ids parts entry rules) := by
  induction rules with
  | nil => exact .pure
  | cons rule rules ih =>
      exact (steady_fact deterministic steady).bind fun _ => ih.bind fun _ => .pure

theorem steady_entities (deterministic : setting.mode.isDeterministic = true)
    (steady : ∀ name iteration meaning, parts.lookup name = some (iteration, meaning) →
      ∀ row ids element, Steady (meaning row ids element))
    {entries : List Entry} : Steady (entities setting options row ids parts entries) := by
  induction entries with
  | nil => exact .pure
  | cons entry entries ih =>
      refine steady_require.bind fun _ => ?_
      exact (steady_facts deterministic steady).bind fun _ => ih.bind fun _ => .pure

/-- Rules always come to what each of them always comes to. -/
theorem always_facts_iff (deterministic : setting.mode.isDeterministic = true)
    (steady : ∀ name iteration meaning, parts.lookup name = some (iteration, meaning) →
      ∀ row ids element, Steady (meaning row ids element))
    {entry : Entry} {rules : List Rule} {known : List Fact} :
    Always (facts setting options row ids parts entry rules) known ↔
      List.Forall₂ (fun rule => Always (fact setting options row ids parts entry rule))
        rules known := by
  induction rules generalizing known with
  | nil =>
      constructor
      · intro always
        cases always.unique .pure
        exact .nil
      · intro none
        cases none
        exact .pure
  | cons rule rules ih =>
      constructor
      · intro always
        obtain ⟨first, head, always⟩ := (steady_fact deterministic steady).of_bind always
        obtain ⟨others, tail, always⟩ := (steady_facts deterministic steady).of_bind always
        cases always.unique .pure
        exact .cons head (ih.mp tail)
      · intro each
        cases each with
        | cons head tail => exact head.bind ((ih.mpr tail).bind .pure)

/-- The entry always becomes the entity. -/
structure Settles (setting : Setting) (options : Options) (row : Row) (ids : Identifiers)
    (parts : Parts) (entry : Entry) (entity : Entity) : Prop where
  type : entity.type = entry.type
  id : Entries.get? entry.symbol ids = some entity.id
  facts : List.Forall₂ (fun rule => Always (fact setting options row ids parts entry rule))
    entry.rules entity.facts

/-- Entries always come to what each of them always becomes. -/
theorem always_entities_iff (deterministic : setting.mode.isDeterministic = true)
    (steady : ∀ name iteration meaning, parts.lookup name = some (iteration, meaning) →
      ∀ row ids element, Steady (meaning row ids element))
    {entries : List Entry} {known : List Entity} :
    Always (entities setting options row ids parts entries) known ↔
      List.Forall₂ (Settles setting options row ids parts) entries known := by
  induction entries generalizing known with
  | nil =>
      constructor
      · intro always
        cases always.unique .pure
        exact .nil
      · intro none
        cases none
        exact .pure
  | cons entry entries ih =>
      constructor
      · intro always
        obtain ⟨id, found, always⟩ := steady_require.of_bind always
        obtain ⟨here, head, always⟩ := (steady_facts deterministic steady).of_bind always
        obtain ⟨others, tail, always⟩ := (steady_entities deterministic steady).of_bind always
        cases always.unique .pure
        have settles : Settles setting options row ids parts entry (.mk id entry.type here) :=
          ⟨rfl, (yields_require.mp (found {})).1, (always_facts_iff deterministic steady).mp head⟩
        exact .cons settles (ih.mp tail)
      · intro each
        cases each with
        | @cons _ entity _ _ head tail =>
            obtain ⟨id, type, here⟩ := entity
            obtain ⟨rfl, found, known⟩ := head
            have required : Always (require ids entry.symbol entry.type) id :=
              fun _ => yields_require.mpr ⟨found, rfl⟩
            have facts := (always_facts_iff deterministic steady).mpr known
            exact required.bind (facts.bind ((ih.mpr tail).bind .pure))

/-- Of an entry only the symbol plays a part in its facts. -/
theorem Always.fact_of_symbol {entry entry' : Entry} {rule : Rule} {known : Fact}
    (h : Always (fact setting options row ids parts entry rule) known)
    (same : entry.symbol = entry'.symbol) :
    Always (fact setting options row ids parts entry' rule) known := by
  obtain ⟨target, predicates⟩ := rule
  cases target with
  | symbol name => simpa only [fact, same] using h
  | type => exact h
  | column name => exact h
  | repeated name symbol => exact h

/-- By induction on the template: its subtemplates are the only steps of others that it takes. -/
theorem steady_template (deterministic : setting.mode.isDeterministic = true)
    (absent : setting.geocoder = none) (t : Template) :
    ∀ row inherited element, Steady (template setting t row inherited element) := by
  induction t using Template.nested with
  | step t inside =>
      intro row inherited element
      obtain ⟨entries, subtemplates, bindings, options⟩ := t
      simp only [template, scope]
      refine (steady_identify deterministic).bind fun ids => ?_
      refine (steady_lookUpAll absent).bind fun lookups => ?_
      refine (steady_entities deterministic ?_).bind fun _ => .pure
      intro name iteration meaning found
      rw [lookup_subtemplatesOf] at found
      obtain ⟨part, listed, same⟩ := Option.map_eq_some_iff.mp found
      cases same
      exact inside _ (mem_of_lookup listed)

theorem steady_subtemplatesOf (deterministic : setting.mode.isDeterministic = true)
    (absent : setting.geocoder = none) (subtemplates : List (String × Iteration × Template)) :
    ∀ name iteration meaning,
      (subtemplatesOf setting subtemplates).lookup name = some (iteration, meaning) →
      ∀ row ids element, Steady (meaning row ids element) := by
  intro name iteration meaning found
  rw [lookup_subtemplatesOf] at found
  obtain ⟨part, _, same⟩ := Option.map_eq_some_iff.mp found
  cases same
  exact steady_template deterministic absent part.2

/-- Where content decides, the number of the element is not looked at. -/
theorem template_element (deterministic : setting.mode.isDeterministic = true) (t : Template)
    (element' : Option Nat) :
    template setting t row inherited element = template setting t row inherited element' := by
  obtain ⟨entries, subtemplates, bindings, options⟩ := t
  simp only [template, scope, identify, if_pos deterministic]

variable {t : Template} {result result' : Scope}

theorem Expands.always (deterministic : setting.mode.isDeterministic = true)
    (absent : setting.geocoder = none) (h : Expands setting t row inherited element result) :
    Always (template setting t row inherited element) result := by
  obtain ⟨_, _, yields⟩ := h
  exact (steady_template deterministic absent t row inherited element).always yields

theorem Always.expands (h : Always (template setting t row inherited element) result) :
    Expands setting t row inherited element result :=
  ⟨{}, {}, h {}⟩

/-- What a template always comes to is what its steps always come to. -/
theorem always_template_iff (deterministic : setting.mode.isDeterministic = true)
    (absent : setting.geocoder = none) :
    Always (template setting t row inherited element) result ↔
      Always (identify setting t.entries t.options (row.derive t.bindings) element inherited)
        result.identifiers ∧
      Always (lookUpAll setting t.options (row.derive t.bindings) result.identifiers t.entries)
        result.lookups ∧
      Always (entities setting t.options (row.derive t.bindings) result.identifiers
        (subtemplatesOf setting t.subtemplates) t.entries) result.entities := by
  obtain ⟨entries, subtemplates, bindings, options⟩ := t
  obtain ⟨ids, lookups, known⟩ := result
  simp only [template, scope, Scope.identifiers, Scope.lookups, Scope.entities]
  constructor
  · intro always
    obtain ⟨ids', identified, always⟩ := (steady_identify deterministic).of_bind always
    obtain ⟨lookups', looked, always⟩ := (steady_lookUpAll absent).of_bind always
    obtain ⟨known', entered, always⟩ := (steady_entities deterministic
      (steady_subtemplatesOf deterministic absent subtemplates)).of_bind always
    cases always.unique .pure
    exact ⟨identified, looked, entered⟩
  · rintro ⟨identified, looked, entered⟩
    exact identified.bind (looked.bind (entered.bind .pure))

theorem Seeds.eq (deterministic : setting.mode.isDeterministic = true) {seed : Identifiers}
    {symbol : String} {i : Nat} (h : Seeds setting options row ids symbol i seed) : seed = ids := by
  cases h with
  | inl same => exact same.2
  | inr other => simp [deterministic] at other

/-- What a subtemplate is repeated with is the identifiers of the scope around, and its number does
not matter. -/
theorem Repeats.always (deterministic : setting.mode.isDeterministic = true)
    (absent : setting.geocoder = none) {symbol variableName : String} {value : Datum} {i : Nat}
    {occurrence : String × Scope}
    (h : Repeats setting options row ids symbol variableName (template setting t) (value, i)
      occurrence) :
    Always (template setting t (row.bind variableName value .iteration) ids none) occurrence.2 := by
  obtain ⟨_, seed, seeds, yields⟩ := h
  obtain rfl := seeds.eq deterministic
  rw [template_element deterministic t (some i)]
  exact Expands.always deterministic absent yields

end Templates

end Expanding

end RowTriples
