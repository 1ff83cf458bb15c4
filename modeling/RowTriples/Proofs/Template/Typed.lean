import Mathlib.Data.List.Nodup
import RowTriples.Proofs.Document.Records
import RowTriples.Proofs.Template.Loaded
/-!
# One class for every entry

A document may write a key of an object twice, but the object that is read has it once, with its
last value. So of the properties of an entry one declares the symbol, and this declaration is the
rule for the class. The other keys declare rules of other kinds. At every level of a loaded template
an entry therefore has exactly one rule for its class, wherever it stands among the others. In the
same way no two bindings of a scope derive the same column.
-/

namespace RowTriples

/-! ### Keys -/

namespace Entries

variable {α : Type}

theorem nodup_names_put {entries : Entries α} (h : (names entries).Nodup) (name : String)
    (value : α) : (names (put name value entries)).Nodup := by
  rw [names_put]
  split
  next => exact h
  next new =>
    refine List.nodup_append.mpr ⟨h, by simp, ?_⟩
    intro other member other' singleton same
    obtain rfl := List.mem_singleton.mp singleton
    exact new (same ▸ member)

theorem forall_mem_put {property : α → Prop} {entries : Entries α}
    (h : ∀ entry ∈ entries, property entry.2) {name : String} {value : α} (new : property value) :
    ∀ entry ∈ put name value entries, property entry.2 := by
  induction entries with
  | nil => simpa using new
  | cons first entries ih =>
      obtain ⟨key, old⟩ := first
      obtain ⟨here, others⟩ := List.forall_mem_cons.mp h
      rw [put]
      split
      · exact List.forall_mem_cons.mpr ⟨new, others⟩
      · exact List.forall_mem_cons.mpr ⟨here, ih others⟩

/-- The entries of a list have different names, and their values are values of the list. -/
theorem ofList_spec {property : α → Prop} {entries : List (String × α)}
    (h : ∀ entry ∈ entries, property entry.2) :
    (names (ofList entries)).Nodup ∧ ∀ entry ∈ ofList entries, property entry.2 := by
  refine List.foldlRecOn (motive := fun acc : Entries α => (names acc).Nodup ∧
    ∀ entry ∈ acc, property entry.2) entries _ ⟨List.nodup_nil, nofun⟩ ?_
  intro acc collected entry member
  exact ⟨nodup_names_put collected.1 _ _, forall_mem_put collected.2 (h entry member)⟩

end Entries

/-! ### Records -/

section Records

variable {α : Type} {property : α → Prop} {step : Nat → Document → α → Decoded α}

theorem RecordShape.keeps_decodeEntries (shape : RecordShape)
    (keeps : ∀ i d acc acc', step i d acc = .ok acc' → property acc → property acc')
    {entries : List (String × Document)} {seen seen' : List Nat} {acc acc' : α} (h : property acc)
    (decoded : shape.decodeEntries step seen acc entries = .ok (seen', acc')) : property acc' := by
  induction entries generalizing seen acc with
  | nil =>
      cases decoded
      exact h
  | cons entry entries ih =>
      rw [decodeEntries] at decoded
      split at decoded
      · exact ih h decoded
      · split at decoded
        · cases decoded
        · split at decoded
          · cases decoded
          next stepped => exact ih (keeps _ _ _ _ stepped h) decoded

theorem RecordShape.keeps_decodeItems (shape : RecordShape)
    (keeps : ∀ i d acc acc', step i d acc = .ok acc' → property acc → property acc')
    {items : List Document} {total i : Nat} {acc acc' : α} (h : property acc)
    (decoded : shape.decodeItems step total i acc items = .ok acc') : property acc' := by
  induction items generalizing i acc with
  | nil =>
      rw [decodeItems] at decoded
      split at decoded
      · cases decoded
      · cases decoded
        exact h
  | cons item items ih =>
      rw [decodeItems] at decoded
      split at decoded
      · split at decoded
        · cases decoded
        next stepped => exact ih (keeps _ _ _ _ stepped h) decoded
      · cases decoded

/-- What holds at the start and is kept by every field holds of the record. -/
theorem Document.keeps_asRecord {positional : Bool} {shape : RecordShape} {start value : α}
    {document : Document}
    (keeps : ∀ i d acc acc', step i d acc = .ok acc' → property acc → property acc')
    (h : property start)
    (decoded : document.asRecord positional shape step start = .ok value) : property value := by
  rcases exists_of_asRecord decoded with ⟨_, _, _, read, _⟩ | ⟨_, _, _, read⟩
  · exact shape.keeps_decodeEntries keeps h read
  · exact shape.keeps_decodeItems keeps h read

end Records

/-! ### Outlines -/

/-- The properties of every entry have different keys, at every level. -/
inductive Outline.HasDistinctKeys : Outline → Prop where
  | intro {outline : Outline}
      (here : ∀ entry ∈ outline.entries, (Entries.names entry.2).Nodup)
      (inside : ∀ part ∈ outline.subtemplates, HasDistinctKeys part.2) : HasDistinctKeys outline

theorem Document.nodup_of_asNamed {α : Type} {decode : Document → Decoded α} {document : Document}
    {entries : Entries α} {property : α → Prop}
    (each : ∀ d value, decode d = .ok value → property value)
    (decoded : document.asNamed decode = .ok entries) :
    (Entries.names entries).Nodup ∧ ∀ entry ∈ entries, property entry.2 := by
  obtain ⟨written, _, decoded⟩ := bind_eq_ok_iff.mp decoded
  obtain ⟨listed, mapped, decoded⟩ := bind_eq_ok_iff.mp decoded
  cases decoded
  apply Entries.ofList_spec
  intro entry member
  obtain ⟨⟨name, d⟩, _, read⟩ := exists_of_mem_right (mapM_eq_ok_iff.mp mapped) member
  have read : (decode d >>= fun value => pure (name, value)) = .ok entry := read
  obtain ⟨value, decodes, same⟩ := bind_eq_ok_iff.mp read
  cases same
  exact each d value decodes

/-- The second value of a pair is read from some part of the document. -/
theorem Document.exists_of_asPair {α β : Type} {first : Document → Decoded α}
    {second : Document → Decoded β} {document : Document} {pair : α × β}
    (decoded : document.asPair first second = .ok pair) : ∃ d, second d = .ok pair.2 := by
  unfold asPair at decoded
  split at decoded
  next items _ =>
    cases items with
    | nil => cases decoded
    | cons item items =>
        obtain ⟨a, _, decoded⟩ := bind_eq_ok_iff.mp decoded
        cases items with
        | nil => cases decoded
        | cons item' items =>
            obtain ⟨b, read, decoded⟩ := bind_eq_ok_iff.mp decoded
            split at decoded
            · cases decoded
              exact ⟨item', read⟩
            · cases decoded
  next => cases decoded
  next => cases decoded

/-- The property holds of the outline and of every outline nested in it. -/
inductive Outline.Everywhere (property : Outline → Prop) : Outline → Prop where
  | intro {outline : Outline} (here : property outline)
      (inside : ∀ part ∈ outline.subtemplates, Everywhere property part.2) :
      Everywhere property outline

/-- The properties of every entry have different keys, and the bindings have different names. -/
structure Outline.HasDistinctNames (outline : Outline) : Prop where
  keys : ∀ entry ∈ outline.entries, (Entries.names entry.2).Nodup
  bindings : (Entries.names outline.bindings).Nodup

/-- Names are told apart wherever a map is read. -/
theorem Outline.hasDistinctNames_of_decode {positional : Bool} {fuel : Nat} {document : Document}
    {outline : Outline} (decoded : decode positional fuel document = .ok outline) :
    outline.Everywhere HasDistinctNames := by
  induction fuel generalizing document outline with
  | zero => cases decoded
  | succ fuel ih =>
      rw [decode] at decoded
      have start : Everywhere HasDistinctNames {} := .intro ⟨nofun, List.nodup_nil⟩ nofun
      refine Document.keeps_asRecord ?_ start decoded
      intro i d acc acc' stepped h
      obtain ⟨⟨keys, bindings⟩, inside⟩ := h
      split at stepped
      next =>
        obtain ⟨entries, read, stepped⟩ := bind_eq_ok_iff.mp stepped
        cases stepped
        refine .intro ⟨fun entry member => ?_, bindings⟩ inside
        obtain ⟨items, _, read⟩ := bind_eq_ok_iff.mp read
        obtain ⟨_, _, read⟩ := exists_of_mem_right (mapM_eq_ok_iff.mp read) member
        obtain ⟨_, read⟩ := Document.exists_of_asPair read
        exact (Document.nodup_of_asNamed (fun _ _ _ => trivial) read).1
      next =>
        split at stepped
        next =>
          obtain ⟨subtemplates, read, stepped⟩ := bind_eq_ok_iff.mp stepped
          cases stepped
          exact .intro ⟨keys, bindings⟩ (Document.nodup_of_asNamed (fun _ _ => ih) read).2
        next =>
          split at stepped
          next =>
            obtain ⟨_, read, stepped⟩ := bind_eq_ok_iff.mp stepped
            cases stepped
            exact .intro ⟨keys, (Document.nodup_of_asNamed (fun _ _ _ => trivial) read).1⟩ inside
          next =>
            split at stepped <;>
            · obtain ⟨_, _, stepped⟩ := bind_eq_ok_iff.mp stepped
              cases stepped
              exact .intro ⟨keys, bindings⟩ inside

theorem Outline.Everywhere.hasDistinctKeys {outline : Outline}
    (h : outline.Everywhere HasDistinctNames) : outline.HasDistinctKeys := by
  induction h with
  | intro here _ ih => exact .intro here.keys ih

theorem Outline.hasDistinctKeys_of_decode {positional : Bool} {fuel : Nat} {document : Document}
    {outline : Outline} (decoded : decode positional fuel document = .ok outline) :
    outline.HasDistinctKeys :=
  (hasDistinctNames_of_decode decoded).hasDistinctKeys

/-! ### Entries -/

namespace Entry

variable {type : String} {entry : Entry}

theorem ne_type_of_ofKey? {key : String} {target : Target}
    (denotes : Target.ofKey? key = some target) : target ≠ .type := by
  rintro rfl
  unfold Target.ofKey? at denotes
  repeat' split at denotes
  all_goals cases denotes

/-- The rule of a property is for the class if its key declares the symbol. -/
theorem target_eq_type_iff {key : String} {value : Json} {declared : Option String × Rule}
    (declares : property type key value = .ok declared) :
    declared.2.target = .type ↔ key = symbolKey := by
  unfold property at declares
  split at declares
  next same =>
    split at declares
    · cases declares
      exact ⟨fun _ => same, fun _ => rfl⟩
    · cases declares
  next other =>
    split at declares
    · cases declares
    · cases declares
    next target _ denotes _ =>
      cases declares
      exact ⟨fun isType => absurd isType (ne_type_of_ofKey? denotes), fun same => absurd same other⟩

theorem countP_eq_count {properties : Entries Json} {declared : List (Option String × Rule)}
    (h : List.Forall₂ (fun written declared => property type written.1 written.2 = .ok declared)
      properties declared) :
    (declared.map Prod.snd).countP (·.target = .type) =
      (Entries.names properties).count symbolKey := by
  induction h with
  | nil => rfl
  | cons first _ ih =>
      have same := target_eq_type_iff first
      simp only [Entries.names] at ih ⊢
      rw [List.map_cons, List.map_cons, List.countP_cons, List.count_cons, ih]
      simp only [decide_eq_true_eq, same, beq_iff_eq]

/-- Where the keys of its properties are different, an entry has one rule for its class. -/
theorem countP_of_ofProperties {properties : Entries Json}
    (nodup : (Entries.names properties).Nodup)
    (loaded : ofProperties type properties = .ok entry) :
    entry.rules.countP (·.target = .type) = 1 := by
  obtain ⟨rule, member, isType⟩ := typed_of_ofProperties loaded
  obtain ⟨declared, mapped, loaded⟩ := bind_eq_ok_iff.mp loaded
  split at loaded
  next symbol _ =>
    cases loaded
    have counted : (declared.map Prod.snd).countP (·.target = .type) =
        (Entries.names properties).count symbolKey :=
      countP_eq_count (mapM_eq_ok_iff.mp mapped)
    have some : 0 < (declared.map Prod.snd).countP (·.target = .type) :=
      List.countP_pos_iff.mpr ⟨rule, member, decide_eq_true isType⟩
    rw [counted] at some ⊢
    exact List.count_eq_one_of_mem nodup (List.count_pos_iff.mp some)
  next => cases loaded

end Entry

/-! ### Templates -/

namespace Template

def TypesOnce (t : Template) : Prop :=
  ∀ entry ∈ t.entries, entry.rules.countP (·.target = .type) = 1

theorem LoadsFrom.typesOnce {t : Template} {outline : Outline} (h : t.LoadsFrom outline)
    (distinct : outline.HasDistinctKeys) : t.Everywhere TypesOnce := by
  induction t using nested generalizing outline with
  | step t inside =>
      obtain ⟨here, beyond⟩ := distinct
      refine .intro ?_ ?_
      · intro entry member
        obtain ⟨_, declared, loaded⟩ := exists_of_mem_right h.level.entries member
        exact Entry.countP_of_ofProperties (here _ declared) loaded
      · intro part member
        obtain ⟨_, declared, loaded⟩ := exists_of_mem_right h.level.parts member
        exact inside part member loaded (beyond _ declared)

/-- In a loaded template every entry has one rule for its class, at every level. -/
theorem IsLoaded.typesOnce {t : Template} (h : t.IsLoaded) : t.Everywhere TypesOnce := by
  obtain ⟨_, _, _, decoded, loaded⟩ := h.exists_outline
  exact loaded.typesOnce (Outline.hasDistinctKeys_of_decode decoded)

end Template

/-! ### Bindings -/

namespace NamedBinding

theorem name_of_ofDeclaration {name : String} {declaration : Json} {named : NamedBinding}
    (loaded : ofDeclaration name declaration = .ok named) : named.name = name := by
  simp only [ofDeclaration] at loaded
  split at loaded
  next => cases loaded
  next =>
    split at loaded
    next => cases loaded
    next =>
      cases loaded
      rfl

theorem map_name_of_ofDeclaration {declarations : Entries Json} {bindings : List NamedBinding}
    (loaded : List.Forall₂ (fun declared named => ofDeclaration declared.1 declared.2 = .ok named)
      declarations bindings) : bindings.map (·.name) = Entries.names declarations := by
  induction loaded with
  | nil => rfl
  | cons first _ ih => exact congrArg₂ List.cons (name_of_ofDeclaration first) ih

end NamedBinding

namespace Template

def DerivesOnce (t : Template) : Prop :=
  (t.bindings.map (·.name)).Nodup

theorem LoadsFrom.map_name_bindings {t : Template} {outline : Outline} (h : t.LoadsFrom outline) :
    t.bindings.map (·.name) = Entries.names outline.bindings := by
  obtain ⟨parent, loaded⟩ := h
  obtain ⟨_, _, _, _, _⟩ := outline
  rw [ofOutlineIn] at loaded
  obtain ⟨bindings, mapped, loaded⟩ := bind_eq_ok_iff.mp loaded
  obtain ⟨_, _, loaded⟩ := bind_eq_ok_iff.mp loaded
  obtain ⟨_, _, loaded⟩ := bind_eq_ok_iff.mp loaded
  obtain ⟨_, _, loaded⟩ := bind_eq_ok_iff.mp loaded
  cases loaded
  exact NamedBinding.map_name_of_ofDeclaration (mapM_eq_ok_iff.mp mapped)

theorem LoadsFrom.derivesOnce {t : Template} {outline : Outline} (h : t.LoadsFrom outline)
    (distinct : outline.Everywhere Outline.HasDistinctNames) : t.Everywhere DerivesOnce := by
  induction t using nested generalizing outline with
  | step t inside =>
      obtain ⟨here, beyond⟩ := distinct
      refine .intro ?_ fun part member => ?_
      · rw [DerivesOnce, h.map_name_bindings]
        exact here.bindings
      · obtain ⟨_, declared, loaded⟩ := exists_of_mem_right h.level.parts member
        exact inside part member loaded (beyond _ declared)

/-- In a loaded template the bindings of a scope derive different columns, at every level. -/
theorem IsLoaded.derivesOnce {t : Template} (h : t.IsLoaded) : t.Everywhere DerivesOnce := by
  obtain ⟨_, _, _, decoded, loaded⟩ := h.exists_outline
  exact loaded.derivesOnce (Outline.hasDistinctNames_of_decode decoded)

end Template

end RowTriples
