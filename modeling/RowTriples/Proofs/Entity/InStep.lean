import RowTriples.Proofs.Entity.Lockstep
/-!
# Two executions of the same steps

Two templates that say the same in other words are expanded by the same steps: whatever the one
takes from outside, the other takes as well, and where the one fails, the other fails with the same
error. Only the values that the steps yield may be of another form, and how they are related is
carried from step to step.
-/

namespace RowTriples.Expanding

variable {α β γ δ : Type}

/-- The two steps leave the same progress. Both fail with the same error, or both yield values,
which are related. -/
def InStep (rel : α → β → Prop) (step : Expanding α) (step' : Expanding β) : Prop :=
  ∀ progress, ∃ last,
    (∃ error, Fails step progress error last ∧ Fails step' progress error last) ∨
      ∃ value value', Yields step progress value last ∧ Yields step' progress value' last ∧
        rel value value'

namespace InStep

variable {rel : α → β → Prop} {rel' : γ → δ → Prop} {step : Expanding α} {step' : Expanding β}

theorem pure {value : α} {value' : β} (related : rel value value') :
    InStep rel (pure value) (pure value') :=
  fun progress => ⟨progress, .inr ⟨value, value', rfl, rfl, related⟩⟩

theorem throw {error : ExpansionError} : InStep rel (throw error) (throw error) :=
  fun progress => ⟨progress, .inl ⟨error, rfl, rfl⟩⟩

theorem refl (step : Expanding α) : InStep Eq step step := by
  intro progress
  cases run : (step.run progress : Except ExpansionError α × Progress) with
  | mk result last =>
      refine ⟨last, ?_⟩
      cases result with
      | error cause => exact .inl ⟨cause, run, run⟩
      | ok value => exact .inr ⟨value, value, run, run, rfl⟩

theorem mono {rel'' : α → β → Prop} (h : InStep rel step step')
    (imp : ∀ value value', rel value value' → rel'' value value') : InStep rel'' step step' := by
  intro progress
  obtain ⟨last, fails | ⟨value, value', yields, yields', related⟩⟩ := h progress
  · exact ⟨last, .inl fails⟩
  · exact ⟨last, .inr ⟨value, value', yields, yields', imp value value' related⟩⟩

/-- What follows may make use of what the first steps yield. -/
theorem bind_of_yields {next : α → Expanding γ} {next' : β → Expanding δ}
    (h : InStep rel step step')
    (rest : ∀ value value' progress last, Yields step progress value last → rel value value' →
      InStep rel' (next value) (next' value')) :
    InStep rel' (step >>= next) (step' >>= next') := by
  intro progress
  obtain ⟨middle, ⟨error, fails, fails'⟩ | ⟨value, value', yields, yields', related⟩⟩ := h progress
  · exact ⟨middle, .inl ⟨error, fails_bind_of_fails fails, fails_bind_of_fails fails'⟩⟩
  obtain ⟨last, ⟨error, fails, fails'⟩ | ⟨result, result', ends, ends', related'⟩⟩ :=
    rest value value' progress middle yields related middle
  · exact ⟨last,
      .inl ⟨error, fails_bind_of_yields yields fails, fails_bind_of_yields yields' fails'⟩⟩
  · exact ⟨last, .inr ⟨result, result', yields_bind.mpr ⟨value, middle, yields, ends⟩,
      yields_bind.mpr ⟨value', middle, yields', ends'⟩, related'⟩⟩

theorem bind {next : α → Expanding γ} {next' : β → Expanding δ} (h : InStep rel step step')
    (rest : ∀ value value', rel value value' → InStep rel' (next value) (next' value')) :
    InStep rel' (step >>= next) (step' >>= next') :=
  h.bind_of_yields fun value value' _ _ _ related => rest value value' related

/-- The same steps are followed by steps in step. -/
theorem bind_same {step : Expanding α} {next : α → Expanding γ} {next' : α → Expanding δ}
    (rest : ∀ value progress last, Yields step progress value last →
      InStep rel' (next value) (next' value)) :
    InStep rel' (step >>= next) (step >>= next') := by
  refine (refl step).bind_of_yields ?_
  rintro value _ progress last yields rfl
  exact rest value progress last yields

end InStep

/-- Repetitions are in step if the meanings of the subtemplate are, and yield scopes with the same
identifiers. -/
theorem inStep_repeatFor {rel : Scope → Scope → Prop} {setting : Setting} {options : Options}
    {row : Row} {ids : Identifiers} {subtemplate symbol variableName : String}
    {meaning meaning' : Meaning} {i : Nat} {values : List Datum}
    (known : ∀ result result', rel result result' → result'.identifiers = result.identifiers)
    (inside : ∀ row seed element,
      InStep rel (meaning row seed element) (meaning' row seed element)) :
    InStep (List.Forall₂ fun occurrence occurrence' =>
        occurrence'.1 = occurrence.1 ∧ rel occurrence.2 occurrence'.2)
      (repeatFor setting options row ids subtemplate symbol variableName meaning i values)
      (repeatFor setting options row ids subtemplate symbol variableName meaning' i values) := by
  induction values generalizing i with
  | nil => exact .pure .nil
  | cons value values ih =>
      rw [repeatFor_cons, repeatFor_cons]
      refine InStep.bind_same fun seed _ _ _ => ?_
      refine (inside _ seed (some i)).bind fun result result' related => ?_
      rw [known result result' related]
      split
      · exact .throw
      · exact ih.bind fun _ _ others => .pure (.cons ⟨rfl, related⟩ others)

end RowTriples.Expanding
