import RowTriples.Document.Decode
import RowTriples.Proofs.Pointwise
/-!
# Reading records

Of a record each field is told apart: a field that is written is read from the part that stands
under one of its names, or at its place where the record is a sequence, and a field that is left out
keeps what it started with, which only optional fields do.
-/

namespace RowTriples

/-- The part of a document that is written for the field with the given number. -/
def RecordShape.part? (shape : RecordShape) (document : Document) (j : Nat) : Option Document :=
  match document.content with
  | .map entries => (entries.find? fun entry => shape.index? entry.1 = some j).map Prod.snd
  | .sequence items => items[j]?
  | _ => none

/-- What a record holds in a field: what is read from the part that is written for it, or what stood
there at the start if the field is left out, which has to be an optional one then. -/
def RecordField.Keeps {β : Type} (field : RecordField) (read : Document → Decoded β) (start : β) :
    Option Document → β → Prop
  | some part, value => read part = .ok value
  | none, value => field.optional = true ∧ value = start

namespace RecordShape

variable {shape : RecordShape} {field : RecordField} {i j : Nat} {name : String}

theorem index?_lt (found : shape.index? name = some i) : i < shape.fields.length :=
  (List.findIdx?_eq_some_iff_getElem.mp found).1

theorem optional_of_missing? {seen : List Nat} (complete : shape.missing? seen = none)
    (there : shape.fields[j]? = some field) (unseen : j ∉ seen) : field.optional = true := by
  rw [missing?, Option.map_eq_none_iff, List.find?_eq_none] at complete
  have listed := complete (field, j) (List.mem_zipIdx_iff_getElem?.mpr there)
  simpa [unseen] using listed

section Fields

variable {α β : Type} {step : Nat → Document → α → Decoded α} {get : α → β}
  {read : Document → Decoded β}

/-- By induction on the fields that are written: the one for the record's field sets it, and neither
those before nor those behind touch it. -/
theorem get_of_decodeEntries
    (sets : ∀ d acc acc', step j d acc = .ok acc' → read d = .ok (get acc'))
    (keeps : ∀ i d acc acc', i < shape.fields.length → i ≠ j → step i d acc = .ok acc' →
      get acc' = get acc)
    {entries : List (String × Document)} {seen seen' : List Nat} {acc acc' : α}
    (decoded : shape.decodeEntries step seen acc entries = .ok (seen', acc')) :
    (j ∈ seen → get acc' = get acc ∧ j ∈ seen') ∧
    (j ∉ seen → ∀ entry, entries.find? (fun entry => shape.index? entry.1 = some j) = some entry →
      read entry.2 = .ok (get acc') ∧ j ∈ seen') ∧
    (j ∉ seen → entries.find? (fun entry => shape.index? entry.1 = some j) = none →
      get acc' = get acc ∧ j ∉ seen') := by
  induction entries generalizing seen acc with
  | nil =>
      cases decoded
      refine ⟨fun known => ⟨rfl, known⟩, ?_, fun unknown _ => ⟨rfl, unknown⟩⟩
      intro _ _ found
      cases found
  | cons entry entries ih =>
      obtain ⟨name, value⟩ := entry
      rw [decodeEntries] at decoded
      split at decoded
      next unknown =>
        rw [List.find?_cons_of_neg (by simp [unknown])]
        exact ih decoded
      next i index =>
        split at decoded
        next => cases decoded
        next fresh =>
          split at decoded
          next => cases decoded
          next acc₁ stepped =>
            obtain ⟨known, found, missing⟩ := ih decoded
            by_cases here : i = j
            · subst here
              obtain ⟨kept, seen'⟩ := known List.mem_cons_self
              have fresh : i ∉ seen := by simpa using fresh
              rw [List.find?_cons_of_pos (by simp [index])]
              refine ⟨fun known => absurd known fresh, ?_, fun _ found => ?_⟩
              · intro _ _ found
                cases found
                exact ⟨kept ▸ sets _ _ _ stepped, seen'⟩
              · cases found
            · have before : get acc₁ = get acc := keeps i _ _ _ (index?_lt index) here stepped
              have member : j ∈ i :: seen ↔ j ∈ seen := by simp [Ne.symm here]
              rw [List.find?_cons_of_neg (by simp [index, here])]
              rw [member, before] at known
              rw [member] at found
              rw [member, before] at missing
              exact ⟨known, found, missing⟩

theorem keeps_of_decodeEntries (there : shape.fields[j]? = some field)
    (sets : ∀ d acc acc', step j d acc = .ok acc' → read d = .ok (get acc'))
    (keeps : ∀ i d acc acc', i < shape.fields.length → i ≠ j → step i d acc = .ok acc' →
      get acc' = get acc)
    {entries : List (String × Document)} {seen : List Nat} {start value : α}
    (decoded : shape.decodeEntries step [] start entries = .ok (seen, value))
    (complete : shape.missing? seen = none) :
    field.Keeps read (get start)
      ((entries.find? fun entry => shape.index? entry.1 = some j).map Prod.snd) (get value) := by
  obtain ⟨_, found, missing⟩ := get_of_decodeEntries sets keeps decoded
  cases written : entries.find? fun entry => shape.index? entry.1 = some j with
  | some entry => exact (found List.not_mem_nil entry written).1
  | none =>
      obtain ⟨kept, unseen⟩ := missing List.not_mem_nil written
      exact ⟨optional_of_missing? complete there unseen, kept⟩

theorem get_of_decodeItems (there : shape.fields[j]? = some field)
    (sets : ∀ d acc acc', step j d acc = .ok acc' → read d = .ok (get acc'))
    (keeps : ∀ i d acc acc', i < shape.fields.length → i ≠ j → step i d acc = .ok acc' →
      get acc' = get acc)
    {items : List Document} {total i : Nat} {acc acc' : α}
    (decoded : shape.decodeItems step total i acc items = .ok acc') :
    (j < i → get acc' = get acc) ∧
    (i ≤ j → field.Keeps read (get acc) items[j - i]? (get acc')) := by
  induction items generalizing i acc with
  | nil =>
      rw [decodeItems] at decoded
      split at decoded
      next => cases decoded
      next complete =>
        cases decoded
        refine ⟨fun _ => rfl, fun later => ⟨optional_of_missing? complete there ?_, rfl⟩⟩
        simpa using later
  | cons item items ih =>
      rw [decodeItems] at decoded
      split at decoded
      next bound =>
        split at decoded
        next => cases decoded
        next acc₁ stepped =>
          obtain ⟨before, behind⟩ := ih decoded
          rcases Nat.lt_trichotomy j i with earlier | rfl | later
          · have kept := keeps i _ _ _ bound (Nat.ne_of_gt earlier) stepped
            refine ⟨fun _ => (before (Nat.lt_succ_of_lt earlier)).trans kept, ?_⟩
            exact fun h => absurd h (Nat.not_le_of_lt earlier)
          · refine ⟨fun h => absurd h (Nat.lt_irrefl j), fun _ => ?_⟩
            rw [Nat.sub_self, List.getElem?_cons_zero]
            change read item = .ok (get acc')
            rw [before (Nat.lt_succ_self j)]
            exact sets _ _ _ stepped
          · refine ⟨fun h => absurd h (Nat.not_lt_of_lt later), fun _ => ?_⟩
            have kept := keeps i _ _ _ bound (Nat.ne_of_lt later) stepped
            have place : j - i = (j - (i + 1)) + 1 := by omega
            rw [place, List.getElem?_cons_succ, ← kept]
            exact behind later
      next => cases decoded

end Fields

end RecordShape

/-- What a record can be read from: from entries with different fields, none of which is missing, or
from a sequence where this is allowed. Nothing at all is read as no entries. -/
theorem Document.exists_of_asRecord {α : Type} {positional : Bool} {shape : RecordShape}
    {step : Nat → Document → α → Decoded α} {start value : α} {document : Document}
    (decoded : document.asRecord positional shape step start = .ok value) :
    (∃ entries seen,
      (document.content = .map entries ∨ document.content = .plain "" ∧ entries = []) ∧
      shape.decodeEntries step [] start entries = .ok (seen, value) ∧
      shape.missing? seen = none) ∨
    ∃ items, document.content = .sequence items ∧ positional = true ∧
      shape.decodeItems step items.length 0 start items = .ok value := by
  rw [asRecord] at decoded
  split at decoded
  case h_1 content | h_2 content =>
    obtain ⟨⟨seen, value'⟩, entered, decoded⟩ := bind_eq_ok_iff.mp decoded
    simp only at decoded
    split at decoded
    next => cases decoded
    next complete =>
      cases decoded
      exact .inl ⟨_, seen, by simp [content], entered, complete⟩
  next items content =>
    split at decoded
    next allowed => exact .inr ⟨items, content, allowed, decoded⟩
    next => cases decoded
  next => cases decoded

/-- A record that is read from a document holds in each field what is written for it, as long as
reading a field changes no other one. -/
theorem Document.keeps_of_asRecord {α β : Type} {positional : Bool} {shape : RecordShape}
    {step : Nat → Document → α → Decoded α} {j : Nat} {field : RecordField} {get : α → β}
    {read : Document → Decoded β} {start value : α} {document : Document}
    (there : shape.fields[j]? = some field)
    (steps : ∀ i d acc acc', i < shape.fields.length → step i d acc = .ok acc' →
      if i = j then read d = .ok (get acc') else get acc' = get acc)
    (decoded : document.asRecord positional shape step start = .ok value) :
    field.Keeps read (get start) (shape.part? document j) (get value) := by
  have sets (d : Document) (acc acc' : α) (stepped : step j d acc = .ok acc') :
      read d = .ok (get acc') :=
    (if_pos rfl).mp (steps j d acc acc' (List.getElem?_eq_some_iff.mp there).1 stepped)
  have keeps (i : Nat) (d : Document) (acc acc' : α) (bound : i < shape.fields.length)
      (other : i ≠ j) (stepped : step i d acc = .ok acc') : get acc' = get acc :=
    (if_neg other).mp (steps i d acc acc' bound stepped)
  rw [RecordShape.part?]
  rcases exists_of_asRecord decoded with
    ⟨entries, seen, content | ⟨content, rfl⟩, entered, complete⟩ | ⟨items, content, _, entered⟩
  · rw [content]
    exact RecordShape.keeps_of_decodeEntries there sets keeps entered complete
  · rw [content]
    exact RecordShape.keeps_of_decodeEntries there sets keeps entered complete
  · rw [content]
    exact (RecordShape.get_of_decodeItems there sets keeps entered).2 (Nat.zero_le j)

end RowTriples
