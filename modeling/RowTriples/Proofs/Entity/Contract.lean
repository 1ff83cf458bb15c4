import Mathlib.Data.List.Forall2
import RowTriples.Entity.Expansion
import RowTriples.Proofs.Identifier.Content
/-!
# Contracts of the expansion of a row

A step of the expansion either yields a value and hands on the progress, or ends the row. `Yields`
speaks of one execution and takes a step apart into the executions of its parts; `Succeeds` promises
an execution from every progress, whatever was taken from outside before, together with a property
of the value.

Each function of the expansion has one lemma for either. Later modules cite these and never unfold
the functions.
-/

namespace RowTriples

namespace Expanding

variable {α β : Type}

/-- The step yields a value and hands on the given progress. -/
def Yields (step : Expanding α) (progress : Progress) (value : α) (progress' : Progress) : Prop :=
  (step.run progress : Except ExpansionError α × Progress) = (.ok value, progress')

@[simp] theorem yields_pure {value value' : α} {progress progress' : Progress} :
    Yields (pure value) progress value' progress' ↔ value = value' ∧ progress = progress' := by
  change ((.ok value, progress) : Except ExpansionError α × Progress) = (.ok value', progress') ↔ _
  simp

@[simp] theorem not_yields_throw {error : ExpansionError} {value : α}
    {progress progress' : Progress} : ¬Yields (throw error) progress value progress' := by
  change ¬((.error error, progress) : Except ExpansionError α × Progress) = (.ok value, progress')
  simp

/-- An execution of two steps is an execution of the first and one of the second. -/
theorem yields_bind {step : Expanding α} {next : α → Expanding β} {progress progress' : Progress}
    {value : β} :
    Yields (step >>= next) progress value progress' ↔ ∃ middle progress'',
      Yields step progress middle progress'' ∧ Yields (next middle) progress'' value progress' := by
  have run : ((step >>= next).run progress : Except ExpansionError β × Progress) =
      match (step.run progress : Except ExpansionError α × Progress) with
      | (.ok middle, progress'') => (next middle).run progress''
      | (.error error, progress'') => (.error error, progress'') := by
    change (match (step.run progress : Except ExpansionError α × Progress) with
      | (result, progress'') => ExceptT.bindCont next result progress'') = _
    rcases (step.run progress : Except ExpansionError α × Progress) with ⟨_ | _, _⟩ <;> rfl
  unfold Yields
  rw [run]
  rcases (step.run progress : Except ExpansionError α × Progress) with ⟨error | middle, progress''⟩
  · constructor
    · exact nofun
    · rintro ⟨_, _, first, _⟩
      cases first
  · constructor
    · exact fun h => ⟨middle, progress'', rfl, h⟩
    · rintro ⟨_, _, first, second⟩
      cases first
      exact second

/-- The step yields a value with the property, whatever was taken from outside before. -/
def Succeeds (step : Expanding α) (post : α → Prop) : Prop :=
  ∀ progress, ∃ value progress', Yields step progress value progress' ∧ post value

namespace Succeeds

variable {step : Expanding α} {post post' : α → Prop}

theorem mono (h : Succeeds step post) (imp : ∀ value, post value → post' value) :
    Succeeds step post' := by
  intro progress
  obtain ⟨value, progress', yields, holds⟩ := h progress
  exact ⟨value, progress', yields, imp value holds⟩

theorem pure {value : α} (holds : post value) : Succeeds (pure value) post :=
  fun progress => ⟨value, progress, by simp, holds⟩

theorem bind {next : α → Expanding β} {post' : β → Prop} (first : Succeeds step post)
    (rest : ∀ value, post value → Succeeds (next value) post') :
    Succeeds (step >>= next) post' := by
  intro progress
  obtain ⟨middle, progress'', yields, holds⟩ := first progress
  obtain ⟨value, progress', yields', holds'⟩ := rest middle holds progress''
  exact ⟨value, progress', yields_bind.mpr ⟨middle, progress'', yields, yields'⟩, holds'⟩

/-- A step that succeeds at all promises what every execution ensures. -/
theorem of_yields (h : Succeeds step fun _ => True)
    (ensures : ∀ progress value progress', Yields step progress value progress' → post value) :
    Succeeds step post := by
  intro progress
  obtain ⟨value, progress', yields, _⟩ := h progress
  exact ⟨value, progress', yields, ensures _ _ _ yields⟩

end Succeeds

/-- Elements are executed in order, each one from where the one before it has stopped. -/
inductive Threaded (executes : α → β → Progress → Progress → Prop) :
    List α → List β → Progress → Progress → Prop where
  | nil {progress : Progress} : Threaded executes [] [] progress progress
  | cons {x : α} {y : β} {xs : List α} {ys : List β} {progress progress' progress'' : Progress}
      (head : executes x y progress progress')
      (tail : Threaded executes xs ys progress' progress'') :
      Threaded executes (x :: xs) (y :: ys) progress progress''

/-- What an execution leaves of each element, it leaves of the list. -/
theorem Threaded.forall₂ {executes : α → β → Progress → Progress → Prop} {rel : α → β → Prop}
    {xs : List α} {ys : List β} {progress progress' : Progress}
    (h : Threaded executes xs ys progress progress')
    (ensures : ∀ x y progress progress', executes x y progress progress' → rel x y) :
    List.Forall₂ rel xs ys := by
  induction h with
  | nil => exact .nil
  | cons head _ ih => exact .cons (ensures _ _ _ _ head) ih

/-! ### Identifiers by position -/

end Expanding

/-- The identifier is one that the source can give; random ones are taken from a supply. -/
def IdSource.Gives (fresh : Nat → String) : IdSource → String → Prop
  | .bound id, given => given = id
  | .digest content, given => given = Digest.contentId content
  | .random, given => ∃ number, given = fresh number

/-- The identifiers extend the inherited ones by those of further symbols, each of which has one
from its source. -/
structure ByPosition (fresh : Nat → String) (options : Options) (row : Row) (position : Position)
    (symbols : List String) (inherited ids : Identifiers) : Prop where
  names : ∀ name, name ∈ Entries.names ids ↔ name ∈ Entries.names inherited ∨ name ∈ symbols
  kept : ∀ name ∈ Entries.names inherited, Entries.get? name ids = Entries.get? name inherited
  given : ∀ name ∈ symbols, name ∉ Entries.names inherited → ∃ id,
    Entries.get? name ids = some id ∧ (IdSource.of options row position name).Gives fresh id

namespace Expanding

variable {setting : Setting} {options : Options} {row : Row} {element : Option Nat}
variable {progress progress' : Progress}

theorem yields_mint {id : String} :
    Yields (mint setting) progress id progress' ↔
      id = setting.fresh progress.minted ∧
        progress' = { progress with minted := progress.minted + 1 } := by
  change ((.ok (setting.fresh progress.minted), { progress with minted := progress.minted + 1 }) :
    Except ExpansionError String × Progress) = (.ok id, progress') ↔ _
  simp [eq_comm]

theorem succeeds_mint : Succeeds (mint setting) fun _ => True :=
  fun _ => ⟨_, _, yields_mint.mpr ⟨rfl, rfl⟩, trivial⟩

theorem yields_positionalId {symbol id : String}
    (yields : Yields (positionalId setting options row element symbol) progress id progress') :
    (IdSource.of options row ⟨setting.file, setting.row, element⟩ symbol).Gives
      setting.fresh id := by
  unfold positionalId at yields
  split at yields
  next eq => exact eq ▸ (yields_pure.mp yields).1.symm
  next eq => exact eq ▸ (yields_pure.mp yields).1.symm
  next eq => exact eq ▸ ⟨progress.minted, (yields_mint.mp yields).1⟩

theorem succeeds_positionalId {symbol : String} :
    Succeeds (positionalId setting options row element symbol) fun _ => True := by
  unfold positionalId
  split
  · exact .pure trivial
  · exact .pure trivial
  · exact succeeds_mint

theorem yields_positionalIds {symbols : List String} {inherited ids : Identifiers}
    (yields : Yields (positionalIds setting options row element symbols inherited) progress ids
      progress') :
    ByPosition setting.fresh options row ⟨setting.file, setting.row, element⟩ symbols inherited
      ids := by
  induction symbols generalizing inherited progress with
  | nil =>
      obtain ⟨rfl, _⟩ := yields_pure.mp yields
      exact ⟨by simp, fun _ _ => rfl, nofun⟩
  | cons symbol symbols ih =>
      unfold positionalIds at yields
      split at yields
      next known =>
        have known := Entries.has_iff.mp known
        obtain ⟨names, kept, given⟩ := ih yields
        refine ⟨fun name => ?_, kept, fun name member new => ?_⟩
        · rw [names]
          by_cases same : name = symbol <;> simp [same, known]
        · rcases List.mem_cons.mp member with rfl | member
          · exact absurd known new
          · exact given name member new
      next unknown =>
        have unknown : symbol ∉ Entries.names inherited := fun known =>
          unknown (Entries.has_iff.mpr known)
        obtain ⟨id, _, minted, yields⟩ := yields_bind.mp yields
        obtain ⟨names, kept, given⟩ := ih yields
        have namesPut : Entries.names (Entries.put symbol id inherited) =
            Entries.names inherited ++ [symbol] := by
          rw [Entries.names_put, if_neg unknown]
        have put : Entries.get? symbol ids = some id := by
          rw [kept symbol (by simp [namesPut]), Entries.get?_put_self]
        refine ⟨fun name => ?_, fun name known => ?_, fun name member new => ?_⟩
        · rw [names, namesPut]
          simp [or_assoc]
        · have different : symbol ≠ name := fun same => unknown (same ▸ known)
          rw [kept name (by simp [namesPut, known]), Entries.get?_put, if_neg different]
        · by_cases same : name = symbol
          · exact ⟨id, same ▸ put, same ▸ yields_positionalId minted⟩
          · exact given name ((List.mem_cons.mp member).resolve_left same)
              (by simp [namesPut, new, same])

theorem succeeds_positionalIds {symbols : List String} {inherited : Identifiers} :
    Succeeds (positionalIds setting options row element symbols inherited) fun _ => True := by
  induction symbols generalizing inherited with
  | nil => exact .pure trivial
  | cons symbol symbols ih =>
      unfold positionalIds
      split
      · exact ih
      · exact succeeds_positionalId.bind fun _ _ => ih

/-! ### The identifiers of a scope -/

end Expanding

theorem mem_declaredSymbols {entries : List Entry} {name : String} :
    name ∈ declaredSymbols entries ↔ name ∈ entries.map (·.symbol) := by
  have seen : ∀ seen : List String, name ∈ entries.foldl (fun seen entry =>
      if seen.contains entry.symbol then seen else seen ++ [entry.symbol]) seen ↔
        name ∈ seen ∨ name ∈ entries.map (·.symbol) := by
    induction entries with
    | nil => simp
    | cons entry entries ih =>
        intro seen
        rw [List.foldl_cons, ih, List.map_cons, List.mem_cons]
        split
        next known =>
          have known : entry.symbol ∈ seen := by simpa using known
          by_cases same : name = entry.symbol <;> simp [same, known]
        next => simp [or_assoc]
  simpa [declaredSymbols] using seen []

namespace Expanding

variable {setting : Setting} {options : Options} {row : Row} {element : Option Nat}
variable {progress progress' : Progress}

section Identify

variable {entries : List Entry} {inherited ids : Identifiers}

theorem yields_identify_deterministic (deterministic : setting.mode.isDeterministic = true)
    (yields : Yields (identify setting entries options row element inherited) progress ids
      progress') :
    Resolves setting.mode setting.file row entries inherited ids := by
  rw [Yields, identify_deterministic deterministic] at yields
  have found := congrArg Prod.fst yields
  rcases Identifiers.byContent_cases setting.mode setting.file row entries inherited with
    ⟨_, _, _, eq⟩ | ⟨_, _, _, eq⟩ | ⟨_, _, _, eq, resolves⟩ <;> rw [eq] at found
  · cases found
  · cases found
  · cases found
    exact resolves

/-- Where content decides, a scope is identified only if its pending entries do not wait for each
other. -/
theorem not_hasCycle_of_identify (deterministic : setting.mode.isDeterministic = true)
    (yields : Yields (identify setting entries options row element inherited) progress ids
      progress') :
    ¬HasCycle (·.IsPending row entries inherited) := by
  rw [Yields, identify_deterministic deterministic] at yields
  have found := congrArg Prod.fst yields
  rcases Identifiers.byContent_cases setting.mode setting.file row entries inherited with
    ⟨_, _, _, eq⟩ | ⟨_, _, _, eq⟩ | ⟨_, acyclic, _, _, _⟩
  · rw [eq] at found
    cases found
  · rw [eq] at found
    cases found
  · exact acyclic

theorem yields_identify_positional (positional : setting.mode.isDeterministic = false)
    (yields : Yields (identify setting entries options row element inherited) progress ids
      progress') :
    ByPosition setting.fresh options row ⟨setting.file, setting.row, element⟩
      (declaredSymbols entries) inherited ids := by
  unfold identify at yields
  rw [if_neg (by simp [positional])] at yields
  exact yields_positionalIds yields

/-- In every mode the names of a scope are the inherited ones and the declared ones. -/
theorem names_identify
    (yields : Yields (identify setting entries options row element inherited) progress ids
      progress')
    (name : String) :
    name ∈ Entries.names ids ↔
      name ∈ Entries.names inherited ∨ name ∈ declaredSymbols entries := by
  cases mode : setting.mode.isDeterministic with
  | true => rw [(yields_identify_deterministic mode yields).names, mem_declaredSymbols]
  | false => exact (yields_identify_positional mode yields).names name

/-- In every mode a scope keeps the identifiers of the scopes around it. -/
theorem kept_identify
    (yields : Yields (identify setting entries options row element inherited) progress ids
      progress')
    {name : String} (known : name ∈ Entries.names inherited) :
    Entries.get? name ids = Entries.get? name inherited := by
  cases mode : setting.mode.isDeterministic with
  | true => exact (yields_identify_deterministic mode yields).kept name known
  | false => exact (yields_identify_positional mode yields).kept name known

/-- Only links that lead nowhere and cycles keep a scope from being identified, and only where
content decides. -/
theorem succeeds_identify
    (sound : setting.mode.isDeterministic = true → ¬HasDanglingLink row entries inherited)
    (acyclic : setting.mode.isDeterministic = true →
      ¬HasCycle (·.IsPending row entries inherited)) :
    Succeeds (identify setting entries options row element inherited) fun _ => True := by
  cases mode : setting.mode.isDeterministic with
  | true =>
      intro progress
      rcases Identifiers.byContent_cases setting.mode setting.file row entries inherited with
        ⟨dangling, _⟩ | ⟨_, cyclic, _⟩ | ⟨_, _, ids, eq, _⟩
      · exact absurd dangling (sound mode)
      · exact absurd cyclic (acyclic mode)
      · exact ⟨ids, progress, by rw [Yields, identify_deterministic mode, eq], trivial⟩
  | false =>
      unfold identify
      rw [if_neg (by simp [mode])]
      exact succeeds_positionalIds

end Identify

/-! ### Lookups and links -/

theorem yields_ask {geocoder : Geocoder} {query : AddressQuery}
    {answer : Except GeocodeError GeocodeResponse} :
    Yields (ask geocoder query) progress answer progress' ↔
      answer = geocoder progress.asked query ∧
        progress' = { progress with asked := progress.asked ++ [query] } := by
  change ((.ok (geocoder progress.asked query),
    { progress with asked := progress.asked ++ [query] }) :
      Except ExpansionError (Except GeocodeError GeocodeResponse) × Progress) =
        (.ok answer, progress') ↔ _
  simp [eq_comm]

theorem succeeds_ask {geocoder : Geocoder} {query : AddressQuery} :
    Succeeds (ask geocoder query) fun _ => True :=
  fun _ => ⟨_, _, rfl, trivial⟩

theorem succeeds_lookUp {query : AddressQuery} : Succeeds (lookUp setting query) fun _ => True := by
  unfold lookUp
  split
  · exact .pure trivial
  · refine succeeds_ask.bind fun answer _ => ?_
    split
    · exact .pure trivial
    · split <;> exact .pure trivial

theorem succeeds_lookUpAll {ids : Identifiers} {entries : List Entry} :
    Succeeds (lookUpAll setting options row ids entries) fun _ => True := by
  induction entries with
  | nil => exact .pure trivial
  | cons entry entries ih =>
      unfold lookUpAll
      split
      · exact succeeds_lookUp.bind fun _ _ => ih.bind fun _ _ => .pure trivial
      · exact ih

/-- Every lookup is made for an entry with an identifier and an address. -/
theorem yields_lookUpAll {ids : Identifiers} {entries : List Entry} {lookups : List Lookup}
    {lookup : Lookup}
    (yields : Yields (lookUpAll setting options row ids entries) progress lookups progress')
    (member : lookup ∈ lookups) :
    ∃ entry ∈ entries, Entries.get? entry.symbol ids = some lookup.id ∧
      addressQuery? setting.language.vocabulary options row entry = some lookup.query ∧
      ∃ before after, Yields (lookUp setting lookup.query) before lookup.outcome after := by
  induction entries generalizing progress progress' lookups with
  | nil =>
      obtain ⟨rfl, _⟩ := yields_pure.mp yields
      cases member
  | cons entry entries ih =>
      unfold lookUpAll at yields
      split at yields
      next id query known address =>
        obtain ⟨outcome, _, asked, yields⟩ := yields_bind.mp yields
        obtain ⟨others, _, rest, yields⟩ := yields_bind.mp yields
        obtain ⟨rfl, _⟩ := yields_pure.mp yields
        rcases List.mem_cons.mp member with rfl | member
        · exact ⟨entry, List.mem_cons_self, known, address, _, _, asked⟩
        · obtain ⟨other, listed, found⟩ := ih rest member
          exact ⟨other, List.mem_cons_of_mem _ listed, found⟩
      next =>
        obtain ⟨other, listed, found⟩ := ih yields member
        exact ⟨other, List.mem_cons_of_mem _ listed, found⟩

theorem yields_require {ids : Identifiers} {symbol referencedBy id : String} :
    Yields (require ids symbol referencedBy) progress id progress' ↔
      Entries.get? symbol ids = some id ∧ progress = progress' := by
  unfold require
  split
  next eq => simp [eq]
  next eq => simp [eq]

theorem succeeds_require {ids : Identifiers} {symbol referencedBy : String}
    (known : symbol ∈ Entries.names ids) :
    Succeeds (require ids symbol referencedBy) fun _ => True := by
  obtain ⟨id, found⟩ := Entries.exists_get?_of_mem known
  exact fun progress => ⟨id, progress, yields_require.mpr ⟨found, rfl⟩, trivial⟩

end Expanding

end RowTriples
