import RowTriples.Proofs.Entity.Instantiation
/-!
# Two executions in lockstep

An expansion with a geocoder and one without it go through the same steps and take the same random
identifiers; only the lookups come out differently. So the two executions are compared step by step:
both yield values or both fail with the same error, and what the one with the geocoder asks on the
way is written down in a transcript.
-/

namespace RowTriples

/-- The setting with another geocoder, or with none. -/
def Setting.asking (setting : Setting) (geocoder : Option Geocoder) : Setting :=
  { setting with geocoder }

def LookupOutcome.of : Except GeocodeError GeocodeResponse → LookupOutcome
  | .error error => .failed error
  | .ok response =>
    match response.match? with
    | some feature => .matched feature
    | none => .noMatch

/-- Lookups that are made one after another. Each has the outcome of the geocoder's answer to its
query, after all the queries before it. -/
inductive Transcript (geocoder : Geocoder) :
    List AddressQuery → List Lookup → List AddressQuery → Prop where
  | nil {asked : List AddressQuery} : Transcript geocoder asked [] asked
  | cons {asked asked' : List AddressQuery} {lookup : Lookup} {lookups : List Lookup}
      (answered : lookup.outcome = .of (geocoder asked lookup.query))
      (rest : Transcript geocoder (asked ++ [lookup.query]) lookups asked') :
      Transcript geocoder asked (lookup :: lookups) asked'

theorem Transcript.append {geocoder : Geocoder} {asked asked' asked'' : List AddressQuery}
    {lookups lookups' : List Lookup} (h : Transcript geocoder asked lookups asked')
    (h' : Transcript geocoder asked' lookups' asked'') :
    Transcript geocoder asked (lookups ++ lookups') asked'' := by
  induction h with
  | nil => exact h'
  | cons answered _ ih => exact .cons answered (ih h')

namespace Expanding

variable {α β γ δ : Type}

/-- The step ends the row with an error and hands on the given progress. -/
def Fails (step : Expanding α) (progress : Progress) (error : ExpansionError)
    (progress' : Progress) : Prop :=
  (step.run progress : Except ExpansionError α × Progress) = (.error error, progress')

theorem fails_bind_of_fails {step : Expanding α} {next : α → Expanding β}
    {progress progress' : Progress} {error : ExpansionError}
    (fails : Fails step progress error progress') :
    Fails (step >>= next) progress error progress' := by
  change (match (step.run progress : Except ExpansionError α × Progress) with
    | (result, progress'') => ExceptT.bindCont next result progress'') = _
  rw [fails]
  rfl

theorem fails_bind_of_yields {step : Expanding α} {next : α → Expanding β}
    {progress progress' progress'' : Progress} {value : α} {error : ExpansionError}
    (yields : Yields step progress value progress')
    (fails : Fails (next value) progress' error progress'') :
    Fails (step >>= next) progress error progress'' := by
  change (match (step.run progress : Except ExpansionError α × Progress) with
    | (result, progress'') => ExceptT.bindCont next result progress'') = _
  rw [yields]
  exact fails

/-- The two steps, begun after equally many random identifiers, take equally many. Both fail with
the same error, or both yield values, which are related by what the first step looks up. -/
def Lockstep (geocoder : Geocoder) (step : Expanding α) (step' : Expanding β)
    (rel : α → List Lookup → β → Prop) : Prop :=
  ∀ first first' : Progress, first.minted = first'.minted →
    ∃ last last' : Progress, last.minted = last'.minted ∧
      ((∃ error, Fails step first error last ∧ Fails step' first' error last') ∨
        ∃ value lookups value', Yields step first value last ∧ Yields step' first' value' last' ∧
          Transcript geocoder first.asked lookups last.asked ∧ rel value lookups value')

/-- The values are the same and nothing was looked up. -/
def Unasked (value : α) (lookups : List Lookup) (value' : α) : Prop :=
  lookups = [] ∧ value = value'

namespace Lockstep

variable {geocoder : Geocoder} {step : Expanding α} {step' : Expanding β}
variable {rel : α → List Lookup → β → Prop}

theorem pure {value : α} {value' : β} (related : rel value [] value') :
    Lockstep geocoder (pure value) (pure value') rel :=
  fun first first' minted => ⟨first, first', minted,
    .inr ⟨value, [], value', yields_pure.mpr ⟨rfl, rfl⟩, yields_pure.mpr ⟨rfl, rfl⟩, .nil, related⟩⟩

theorem throw {error : ExpansionError} : Lockstep geocoder (throw error) (throw error) rel :=
  fun first first' minted => ⟨first, first', minted, .inl ⟨error, rfl, rfl⟩⟩

/-- Steps in lockstep are followed by steps in lockstep, and so are the transcripts. -/
theorem bind {next : α → Expanding γ} {next' : β → Expanding δ}
    {rel' : γ → List Lookup → δ → Prop} (h : Lockstep geocoder step step' rel)
    (rest : ∀ value lookups value', rel value lookups value' →
      Lockstep geocoder (next value) (next' value')
        fun result others result' => rel' result (lookups ++ others) result') :
    Lockstep geocoder (step >>= next) (step' >>= next') rel' := by
  intro first first' minted
  obtain ⟨middle, middle', minted, ⟨error, fails, fails'⟩ |
    ⟨value, lookups, value', yields, yields', asked, related⟩⟩ := h first first' minted
  · exact ⟨middle, middle', minted,
      .inl ⟨error, fails_bind_of_fails fails, fails_bind_of_fails fails'⟩⟩
  obtain ⟨last, last', minted, ⟨error, fails, fails'⟩ |
    ⟨result, others, result', ends, ends', asked', related'⟩⟩ :=
    rest value lookups value' related middle middle' minted
  · exact ⟨last, last', minted,
      .inl ⟨error, fails_bind_of_yields yields fails, fails_bind_of_yields yields' fails'⟩⟩
  · exact ⟨last, last', minted, .inr ⟨result, lookups ++ others, result',
      yields_bind.mpr ⟨value, middle, yields, ends⟩,
      yields_bind.mpr ⟨value', middle', yields', ends'⟩, asked.append asked', related'⟩⟩

/-- After steps that look nothing up, the same steps follow. -/
theorem bind_unasked {step step' : Expanding α} {next : α → Expanding γ}
    {next' : α → Expanding δ} {rel' : γ → List Lookup → δ → Prop}
    (h : Lockstep geocoder step step' Unasked)
    (rest : ∀ value, Lockstep geocoder (next value) (next' value) rel') :
    Lockstep geocoder (step >>= next) (step' >>= next') rel' := by
  refine h.bind ?_
  rintro value _ _ ⟨rfl, rfl⟩
  exact rest value

end Lockstep

/-! ### Identifiers -/

variable {geocoder : Geocoder} {setting : Setting} {options : Options} {row : Row}
variable {element : Option Nat} {ids : Identifiers} {known known' : Option Geocoder}

theorem lockstep_mint :
    Lockstep geocoder (mint (setting.asking known)) (mint (setting.asking known')) Unasked := by
  intro first first' minted
  refine ⟨_, _, ?_, .inr ⟨_, [], _, yields_mint.mpr ⟨rfl, rfl⟩, yields_mint.mpr ⟨rfl, rfl⟩, .nil,
    rfl, ?_⟩⟩
  · exact congrArg (· + 1) minted
  · exact congrArg setting.fresh minted

theorem lockstep_positionalId {symbol : String} :
    Lockstep geocoder (positionalId (setting.asking known) options row element symbol)
      (positionalId (setting.asking known') options row element symbol) Unasked := by
  simp only [positionalId, Setting.asking]
  split
  · exact .pure ⟨rfl, rfl⟩
  · exact .pure ⟨rfl, rfl⟩
  · exact lockstep_mint

theorem lockstep_positionalIds {symbols : List String} :
    Lockstep geocoder (positionalIds (setting.asking known) options row element symbols ids)
      (positionalIds (setting.asking known') options row element symbols ids) Unasked := by
  induction symbols generalizing ids with
  | nil => exact .pure ⟨rfl, rfl⟩
  | cons symbol symbols ih =>
      unfold positionalIds
      split
      · exact ih
      · exact lockstep_positionalId.bind_unasked fun _ => ih

theorem lockstep_identify {entries : List Entry} :
    Lockstep geocoder (identify (setting.asking known) entries options row element ids)
      (identify (setting.asking known') entries options row element ids) Unasked := by
  cases mode : setting.mode.isDeterministic with
  | true =>
      simp only [identify, Setting.asking, mode, if_true]
      cases Identifiers.byContent setting.mode setting.file row entries ids with
      | ok found => exact .pure ⟨rfl, rfl⟩
      | error error => exact .throw
  | false =>
      simp only [identify, Setting.asking, mode, Bool.false_eq_true, if_false]
      exact lockstep_positionalIds

theorem lockstep_require {symbol referencedBy : String} :
    Lockstep geocoder (require ids symbol referencedBy) (require ids symbol referencedBy)
      Unasked := by
  unfold require
  split
  · exact .pure ⟨rfl, rfl⟩
  · exact .throw

theorem lockstep_seedFor {symbol : String} {i : Nat} :
    Lockstep geocoder (seedFor (setting.asking known) options row ids symbol i)
      (seedFor (setting.asking known') options row ids symbol i) Unasked := by
  cases mode : setting.mode.isDeterministic with
  | true =>
      simp only [seedFor, Setting.asking, mode, if_true]
      exact .pure ⟨rfl, rfl⟩
  | false =>
      simp only [seedFor, Setting.asking, mode, Bool.false_eq_true, if_false]
      exact lockstep_positionalId.bind_unasked fun _ => .pure ⟨rfl, rfl⟩

/-! ### Lookups -/

/-- The geocoder is asked once, and without it the lookup is not answered. -/
theorem lockstep_lookUp (id : String) {query : AddressQuery} :
    Lockstep geocoder (lookUp (setting.asking (some geocoder)) query)
      (lookUp (setting.asking none) query) fun outcome lookups outcome' =>
        lookups = [⟨id, query, outcome⟩] ∧ outcome' = .unavailable := by
  intro first first' minted
  refine ⟨{ first with asked := first.asked ++ [query] }, first', minted,
    .inr ⟨.of (geocoder first.asked query), [⟨id, query, .of (geocoder first.asked query)⟩],
      .unavailable, ?_, rfl, .cons rfl .nil, rfl, rfl⟩⟩
  refine yields_bind.mpr ⟨geocoder first.asked query, _, rfl, ?_⟩
  cases geocoder first.asked query with
  | error error => exact yields_pure.mpr ⟨rfl, rfl⟩
  | ok response =>
      cases found : response.match? with
      | none => simp [LookupOutcome.of, found]
      | some feature => simp [LookupOutcome.of, found]

/-- Without a geocoder the same lookups are there, and none of them is answered. -/
theorem lockstep_lookUpAll {entries : List Entry} :
    Lockstep geocoder (lookUpAll (setting.asking (some geocoder)) options row ids entries)
      (lookUpAll (setting.asking none) options row ids entries) fun found lookups unanswered =>
        found = lookups ∧ ∀ lookup ∈ unanswered, lookup.outcome = .unavailable := by
  induction entries with
  | nil => exact .pure ⟨rfl, nofun⟩
  | cons entry entries ih =>
      unfold lookUpAll
      simp only [Setting.asking]
      split
      next id query _ _ =>
        refine (lockstep_lookUp id).bind ?_
        rintro outcome _ _ ⟨rfl, rfl⟩
        refine ih.bind ?_
        rintro found _ unanswered ⟨rfl, none⟩
        exact .pure ⟨by simp, List.forall_mem_cons.mpr ⟨rfl, none⟩⟩
      next => exact ih

end Expanding

/-! ### Rows -/

section Row

open Expanding

variable {setting : Setting} {t : Template} {header : Header} {cells : List Datum}
variable {progress progress' : Progress}

theorem expandRow_of_yields {result : Scope}
    (yields : Yields (Expanding.row setting t header cells) progress result progress') :
    expandRow setting t header cells progress =
      (.ok (result.expansion setting.language), progress') := by
  rw [expandRow, yields]
  rfl

theorem expandRow_of_fails {error : ExpansionError}
    (fails : Fails (Expanding.row setting t header cells) progress error progress') :
    expandRow setting t header cells progress = (.error error, progress') := by
  rw [expandRow, fails]
  rfl

end Row

end RowTriples
