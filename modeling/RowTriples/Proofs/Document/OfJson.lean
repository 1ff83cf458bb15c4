import RowTriples.Proofs.Document.Records
import RowTriples.Proofs.Json.Canonical
/-!
# Reading JSON values as documents

A JSON value is a document without tags and plain scalars. So every decoder that succeeds on it
tells exactly which value it was given. Of a record each field is told apart: a field that is
written is read from the value under its name, or at its place where the record is a sequence, and a
field that is left out keeps what it started with, which only optional fields do.
-/

namespace RowTriples

/-! ### Entries with different names -/

namespace Entries

variable {α : Type}

theorem put_of_notMem {name : String} {entries : Entries α} (new : name ∉ names entries)
    (value : α) :
    put name value entries = entries ++ [(name, value)] := by
  induction entries with
  | nil => rfl
  | cons entry entries ih =>
      obtain ⟨key, old⟩ := entry
      obtain ⟨other, absent⟩ := not_or.mp (List.mem_cons.not.mp new)
      rw [put, if_neg (Ne.symm other), ih absent]
      rfl

/-- Entries whose names are different are kept as they are. -/
theorem ofList_of_nodup {entries : List (String × α)} (unique : (names entries).Nodup) :
    ofList entries = entries := by
  suffices each : ∀ acc : Entries α, (names (acc ++ entries)).Nodup →
      entries.foldl (fun acc entry => put entry.1 entry.2 acc) acc = acc ++ entries from
    each [] unique
  induction entries with
  | nil => intro acc _; simp
  | cons entry entries ih =>
      intro acc unique'
      obtain ⟨name, value⟩ := entry
      have split : names (acc ++ (name, value) :: entries) =
          names acc ++ name :: names entries := by
        simp [names]
      have new : name ∉ names acc := by
        rw [split] at unique'
        intro member
        exact (List.nodup_append.mp unique').2.2 _ member _ List.mem_cons_self rfl
      have next : (names ((acc ++ [(name, value)]) ++ entries)).Nodup := by
        simpa [names] using unique'
      have step : put name value acc = acc ++ [(name, value)] := put_of_notMem new value
      rw [List.foldl_cons, step, ih (List.nodup_cons.mp unique).2 _ next, List.append_assoc]
      rfl

end Entries

namespace Document

open Json (EveryObject EveryItem EveryField)

/-! ### Values -/

theorem ofItems_eq_map (items : List Json) : ofItems items = items.map ofJson := by
  induction items with
  | nil => rfl
  | cons item items ih => rw [ofItems, ih, List.map_cons]

theorem ofFields_eq_map (fields : List (String × Json)) :
    ofFields fields = fields.map fun field => (field.1, ofJson field.2) := by
  induction fields with
  | nil => rfl
  | cons field fields ih => rw [ofFields, ih, List.map_cons]

mutual

/-- A JSON value whose objects repeat no names is the value of its document. -/
theorem json?_ofJson : (v : Json) → v.HasUniqueNames → (ofJson v).json? = some v
  | .null, _ | .bool _, _ | .number _, _ | .string _, _ => rfl
  | .array items, unique => by
      rw [ofJson, json?, jsonItems?_ofItems items unique]
      rfl
  | .object fields, unique => by
      rw [ofJson, json?, jsonFields?_ofFields fields unique.2, Option.map_some,
        Entries.ofList_of_nodup unique.1]

theorem jsonItems?_ofItems : (items : List Json) → EveryItem List.Nodup items →
    jsonItems? (ofItems items) = some items
  | [], _ => rfl
  | item :: items, unique => by
      rw [ofItems, jsonItems?, json?_ofJson item unique.1, jsonItems?_ofItems items unique.2]
      rfl

theorem jsonFields?_ofFields : (fields : List (String × Json)) → EveryField List.Nodup fields →
    jsonFields? (ofFields fields) = some fields
  | [], _ => rfl
  | (name, value) :: fields, unique => by
      rw [ofFields, jsonFields?, json?_ofJson value unique.1, jsonFields?_ofFields fields unique.2]
      rfl

end

section Decoders

variable {α β : Type} {v : Json}

theorem asText_ofJson_iff {text : String} : (ofJson v).asText = .ok text ↔ v = .string text := by
  cases v <;> simp [ofJson, asText, content, mismatch]

theorem asBool_ofJson_iff {value : Bool} : (ofJson v).asBool = .ok value ↔ v = .bool value := by
  cases v <;> simp [ofJson, asBool, content, resolved, mismatch]

theorem asJson_ofJson (unique : v.HasUniqueNames) : (ofJson v).asJson = .ok v := by
  rw [asJson, json?_ofJson v unique]

theorem asOption_ofJson_iff {decode : Document → Decoded α} {value : Option α} :
    (ofJson v).asOption decode = .ok value ↔
      v = .null ∧ value = none ∨ v ≠ .null ∧ ∃ x, decode (ofJson v) = .ok x ∧ value = some x := by
  cases v with
  | null => simp [ofJson, asOption, eq_comm]
  | bool | number | string | array | object =>
      simp only [ofJson, asOption, reduceCtorEq, false_and, false_or, ne_eq, not_false_eq_true,
        true_and]
      rw [map_eq_ok_iff]

theorem asList_ofJson_iff {decode : Document → Decoded α} {values : List α} :
    (ofJson v).asList decode = .ok values ↔ ∃ items, v = .array items ∧
      List.Forall₂ (fun item value => decode (ofJson item) = .ok value) items values := by
  rw [asList, bind_eq_ok_iff]
  cases v with
  | array items =>
      simp only [ofJson, asItems, content, Except.ok.injEq, exists_eq_left', mapM_eq_ok_iff,
        ofItems_eq_map, List.forall₂_map_left_iff, Json.array.injEq]
  | null | bool | number | string | object => simp [ofJson, asItems, content, mismatch]

/-- The value of a field together with its name. -/
theorem field_eq_ok_iff {decode : Document → Decoded α} {field : String × Json}
    {entry : String × α} :
    (do return (field.1, ← decode (ofJson field.2)) : Decoded (String × α)) = .ok entry ↔
      entry.1 = field.1 ∧ decode (ofJson field.2) = .ok entry.2 := by
  rw [bind_eq_ok_iff]
  constructor
  · rintro ⟨value, decoded, same⟩
    cases same
    exact ⟨rfl, decoded⟩
  · rintro ⟨same, decoded⟩
    exact ⟨entry.2, decoded, by rw [← same]; rfl⟩

theorem names_eq_of_forall₂ {rel : String × Json → String × α → Prop}
    {fields : List (String × Json)} {entries : Entries α}
    (h : List.Forall₂ (fun field entry => entry.1 = field.1 ∧ rel field entry) fields entries) :
    Entries.names entries = Entries.names fields := by
  induction h with
  | nil => rfl
  | cons first _ ih => exact congrArg₂ List.cons first.1 ih

/-- A list whose values are each read from one form of item is read from one array. -/
theorem eq_array_of_asList {decode : Document → Decoded α} {form : α → Json} {values : List α}
    (decoded : (ofJson v).asList decode = .ok values)
    (each : ∀ items, v = .array items → ∀ item ∈ items, ∀ value,
      decode (ofJson item) = .ok value → item = form value) : v = .array (values.map form) := by
  obtain ⟨items, rfl, h⟩ := asList_ofJson_iff.mp decoded
  rw [eq_map_of_forall₂ h (each items rfl)]

theorem asNamed_ofJson_iff (unique : v.HasUniqueNames) {decode : Document → Decoded α}
    {entries : Entries α} :
    (ofJson v).asNamed decode = .ok entries ↔ ∃ fields, v = .object fields ∧
      List.Forall₂ (fun field entry => entry.1 = field.1 ∧ decode (ofJson field.2) = .ok entry.2)
        fields entries := by
  rw [asNamed, bind_eq_ok_iff]
  cases v with
  | object fields =>
      have kept {listed : Entries α} (h : List.Forall₂ (fun field entry => entry.1 = field.1 ∧
          decode (ofJson field.2) = .ok entry.2) fields listed) : Entries.ofList listed = listed :=
        Entries.ofList_of_nodup (names_eq_of_forall₂ h ▸ unique.1)
      have read (listed : Entries α) : (ofFields fields).mapM (fun field => do
          return (field.1, ← decode field.2) : _ → Decoded (String × α)) = .ok listed ↔
          List.Forall₂
            (fun field entry => entry.1 = field.1 ∧ decode (ofJson field.2) = .ok entry.2)
            fields listed := by
        rw [ofFields_eq_map, mapM_eq_ok_iff, List.forall₂_map_left_iff]
        simp only [field_eq_ok_iff]
      constructor
      · rintro ⟨_, entered, decoded⟩
        cases entered
        obtain ⟨listed, mapped, same⟩ := bind_eq_ok_iff.mp decoded
        cases same
        have h := (read listed).mp mapped
        exact ⟨fields, rfl, (kept h).symm ▸ h⟩
      · rintro ⟨_, same, h⟩
        cases same
        exact ⟨_, rfl, bind_eq_ok_iff.mpr ⟨entries, (read entries).mpr h,
          congrArg Except.ok (kept h)⟩⟩
  | null | bool | number | string | array => simp [ofJson, asEntries, content, mismatch]

/-- Values under names that may be any values are kept as they are. -/
theorem asNamed_asJson_ofJson (unique : v.HasUniqueNames) {fields : Entries Json}
    (decoded : (ofJson v).asNamed asJson = .ok fields) : v = .object fields := by
  obtain ⟨written, rfl, h⟩ := (asNamed_ofJson_iff unique).mp decoded
  have same : written = fields.map fun entry => (entry.1, entry.2) :=
    eq_map_of_forall₂ h fun field member entry related => by
      obtain ⟨name, read⟩ := related
      rw [asJson_ofJson (Json.everyField_iff.mp unique.2 field member), Except.ok.injEq] at read
      exact Prod.ext name.symm read
  rw [same, List.map_id']

theorem asPair_ofJson_iff {first : Document → Decoded α} {second : Document → Decoded β}
    {pair : α × β} :
    (ofJson v).asPair first second = .ok pair ↔ ∃ a b, v = .array [a, b] ∧
      first (ofJson a) = .ok pair.1 ∧ second (ofJson b) = .ok pair.2 := by
  cases v with
  | array items =>
      match items with
      | [] => simp [ofJson, asPair, content, ofItems]
      | [a] => simp [ofJson, asPair, content, ofItems, bind_eq_ok_iff]
      | [a, b] =>
          simp only [ofJson, asPair, content, ofItems, bind_eq_ok_iff]
          constructor
          · rintro ⟨x, read, y, read', same⟩
            cases same
            exact ⟨a, b, rfl, read, read'⟩
          · rintro ⟨_, _, same, read, read'⟩
            cases same
            exact ⟨pair.1, read, pair.2, read', rfl⟩
      | a :: b :: c :: rest => simp [ofJson, asPair, content, ofItems, bind_eq_ok_iff]
  | null | bool | number | string | object => simp [ofJson, asPair, content, mismatch]

end Decoders

end Document

/-! ### Records -/

/-- The part of a value that is written for a field of a record: what stands under the name of the
field, or at its place where the record is a sequence. -/
def Json.part? (name : String) (place : Nat) : Json → Option Json
  | .object fields => Entries.get? name fields
  | .array items => items[place]?
  | _ => none

theorem Json.everyItem_iff {p : List String → Prop} {items : List Json} :
    EveryItem p items ↔ ∀ item ∈ items, EveryObject p item := by
  induction items with
  | nil => simp [EveryItem]
  | cons item items ih => rw [EveryItem, ih, List.forall_mem_cons]

theorem Json.HasUniqueNames.part? {v part : Json} {name : String} {place : Nat}
    (unique : v.HasUniqueNames) (found : v.part? name place = some part) : part.HasUniqueNames := by
  cases v with
  | object fields => exact everyField_iff.mp unique.2 _ (Entries.mem_of_get? found)
  | array items => exact everyItem_iff.mp unique _ (List.mem_of_getElem? found)
  | null | bool | number | string => cases found

namespace RecordShape

variable {shape : RecordShape} {field : RecordField} {i j : Nat} {name : String}

/-- The fields have different names and no other spellings. -/
def IsPlain (shape : RecordShape) : Prop :=
  (∀ field ∈ shape.fields, field.alias? = none) ∧ (shape.fields.map (·.name)).Nodup

theorem index?_eq_some_iff (plain : shape.IsPlain) (there : shape.fields[j]? = some field) :
    shape.index? name = some j ↔ name = field.name := by
  obtain ⟨bound, rfl⟩ := List.getElem?_eq_some_iff.mp there
  have named (i : Nat) (h : i < shape.fields.length) :
      (shape.fields[i].name = name || shape.fields[i].alias? = some name) = true ↔
        shape.fields[i].name = name := by
    simp [plain.1 _ (List.getElem_mem h)]
  rw [index?, List.findIdx?_eq_some_iff_getElem]
  constructor
  · rintro ⟨_, found, _⟩
    exact ((named j bound).mp found).symm
  · rintro rfl
    refine ⟨bound, (named j bound).mpr rfl, fun i before found => ?_⟩
    have within := Nat.lt_trans before bound
    have same := (named i within).mp found
    have place : i = j := by
      refine (List.getElem?_inj (by simpa using within) plain.2).mp ?_
      rw [List.getElem?_map, List.getElem?_map, there, List.getElem?_eq_getElem within]
      exact congrArg some same
    exact Nat.ne_of_lt before place

/-- What is written for a field in a JSON value is written for it in its document. -/
theorem part?_ofJson (plain : shape.IsPlain) (there : shape.fields[j]? = some field) (v : Json) :
    shape.part? (Document.ofJson v) j = (v.part? field.name j).map Document.ofJson := by
  cases v with
  | null | bool | number | string => rfl
  | array items =>
      change (Document.ofItems items)[j]? = items[j]?.map Document.ofJson
      rw [Document.ofItems_eq_map, List.getElem?_map]
  | object fields =>
      change ((Document.ofFields fields).find? fun entry => shape.index? entry.1 = some j).map
        Prod.snd = (Entries.get? field.name fields).map Document.ofJson
      induction fields with
      | nil => rfl
      | cons entry fields ih =>
          obtain ⟨name, value⟩ := entry
          have here_iff : shape.index? name = some j ↔ name = field.name :=
            index?_eq_some_iff plain there
          rw [Document.ofFields, Entries.get?]
          by_cases same : name = field.name
          · rw [if_pos same, List.find?_cons_of_pos (by simpa using here_iff.mpr same)]
            rfl
          · rw [if_neg same, List.find?_cons_of_neg (by simpa using same ∘ here_iff.mp)]
            exact ih

end RecordShape

/-- What a record holds in a field: what is read from the part that is written for it, or what stood
there at the start if the field is left out, which has to be an optional one then. -/
def RecordField.Holds {β : Type} (field : RecordField) (read : Document → Decoded β) (start : β) :
    Option Json → β → Prop
  | some part, value => read (.ofJson part) = .ok value
  | none, value => field.optional = true ∧ value = start

theorem RecordField.holds_of_keeps {β : Type} {field : RecordField} {read : Document → Decoded β}
    {start value : β} {part : Option Json}
    (kept : field.Keeps read start (part.map Document.ofJson) value) :
    field.Holds read start part value := by
  cases part with
  | none => exact kept
  | some part => exact kept

/-- A record that is read from a JSON value holds in each field what is written for it, as long as
reading a field changes no other one. -/
theorem Document.holds_of_asRecord {α β : Type} {shape : RecordShape}
    {step : Nat → Document → α → Decoded α} {j : Nat} {field : RecordField} {get : α → β}
    {read : Document → Decoded β} {start value : α} {v : Json} (plain : shape.IsPlain)
    (there : shape.fields[j]? = some field)
    (steps : ∀ i d acc acc', i < shape.fields.length → step i d acc = .ok acc' →
      if i = j then read d = .ok (get acc') else get acc' = get acc)
    (decoded : (ofJson v).asRecord true shape step start = .ok value) :
    field.Holds read (get start) (v.part? field.name j) (get value) := by
  apply RecordField.holds_of_keeps
  rw [← RecordShape.part?_ofJson plain there]
  exact keeps_of_asRecord there steps decoded

end RowTriples
