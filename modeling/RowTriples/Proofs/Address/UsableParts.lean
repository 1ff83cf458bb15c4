import Mathlib.Logic.Relation
import RowTriples.Address.Query
import RowTriples.Proofs.Document.OfJson
import RowTriples.Proofs.Text.Words
/-!
# What the search for an address depends on

Of the fields of an address only the first usable value of each part counts, wherever it stands. The
parts that are there decide which kind of search is made, and what is searched for under which name.
-/

namespace RowTriples

/-! ### Usable texts -/

namespace Text

/-- The text has a character that is no white space. -/
def IsUsable (text : String) : Prop :=
  ∃ c ∈ text.toList, isBlank c = false

/-- The text is not empty and has no white space at either end. -/
structure IsTight (text : String) : Prop where
  begins : ∃ c, text.toList.head? = some c ∧ isBlank c = false
  ends : ∃ c, text.toList.getLast? = some c ∧ isBlank c = false

variable {text other : String}

theorem isUsable_iff : IsUsable text ↔ isBlankText text = false := by
  simp [IsUsable, isBlankText]

instance : Decidable (IsUsable text) := decidable_of_iff _ isUsable_iff.symm

theorem IsTight.ne_empty (tight : IsTight text) : text ≠ "" := by
  obtain ⟨c, first, _⟩ := tight.begins
  rintro rfl
  cases first

/-- What is left of a usable text without the white space around it is tight. -/
theorem IsUsable.isTight_trimmed (usable : IsUsable text) : IsTight (trimmed text) := by
  obtain ⟨c, member, visible⟩ := usable
  have rest : text.toList.dropWhile isBlank ≠ [] := by
    intro empty
    have blank := List.dropWhile_eq_nil_iff.mp empty c member
    exact Bool.false_ne_true (visible.symm.trans blank)
  have first := List.head_dropWhile_not isBlank rest
  have left : trim text.toList ≠ [] := by
    intro empty
    have blank := List.rdropWhile_eq_nil_iff.mp empty _ (List.head_mem rest)
    exact Bool.false_ne_true (first.symm.trans blank)
  have last := List.rdropWhile_last_not isBlank (text.toList.dropWhile isBlank) left
  obtain ⟨back, whole⟩ := List.rdropWhile_prefix isBlank (text.toList.dropWhile isBlank)
  have same : (trim text.toList).head? = (text.toList.dropWhile isBlank).head? := by
    rw [← whole]
    exact (List.head?_append_of_ne_nil _ left).symm
  have chars : (trimmed text).toList = trim text.toList := String.toList_ofList
  constructor
  · rw [chars, same]
    exact ⟨_, List.head?_eq_some_head rest, first⟩
  · rw [chars]
    exact ⟨_, List.getLast?_eq_some_getLast left, Bool.not_eq_true _ ▸ last⟩

theorem IsTight.append (tight : IsTight text) (between : String) (tight' : IsTight other) :
    IsTight (text ++ between ++ other) := by
  obtain ⟨first, begins, visible⟩ := tight.begins
  obtain ⟨last, ends, visible'⟩ := tight'.ends
  constructor
  · exact ⟨first, by simp [begins], visible⟩
  · exact ⟨last, by simp [ends], visible'⟩

end Text

/-! ### Entries in a fixed order -/

namespace Entries

variable {α : Type}

/-- Entries in the order of different names are told by what stands under each name. -/
theorem eq_filterMap_of_sublist {order : List String} (unique : order.Nodup) {entries : Entries α}
    (ordered : entries.names.Sublist order) :
    entries = order.filterMap fun name => (get? name entries).map (name, ·) := by
  induction order generalizing entries with
  | nil => exact List.map_eq_nil_iff.mp (List.sublist_nil.mp ordered)
  | cons first order ih =>
      obtain ⟨fresh, distinct⟩ := List.nodup_cons.mp unique
      generalize listed : entries.names = names at ordered
      cases ordered with
      | cons _ ordered =>
          subst listed
          have absent : get? first entries = none :=
            get?_eq_none_iff.mpr fun member => fresh (ordered.subset member)
          rw [List.filterMap_cons_none (by rw [absent]; rfl)]
          exact ih distinct ordered
      | cons_cons _ ordered =>
          obtain ⟨⟨name, value⟩, rest, rfl, same, others⟩ := List.map_eq_cons_iff.mp listed
          subst same others
          rw [List.filterMap_cons_some (by rw [get?, if_pos rfl]; rfl)]
          refine congrArg _
            ((ih distinct ordered).trans (List.filterMap_congr fun other member => ?_))
          have differs : name ≠ other := fun same => fresh (same ▸ member)
          rw [get?, if_neg differs]

/-- Entries in the order of different names are the same if they have the same members. -/
theorem eq_of_mem_iff {order : List String} (unique : order.Nodup) {entries entries' : Entries α}
    (ordered : entries.names.Sublist order) (ordered' : entries'.names.Sublist order)
    (same : ∀ name value, (name, value) ∈ entries ↔ (name, value) ∈ entries') :
    entries = entries' := by
  have found (name : String) : get? name entries = get? name entries' := by
    refine Option.ext fun value => ⟨fun found => ?_, fun found => ?_⟩
    · exact get?_of_mem (ordered'.nodup unique) ((same name value).mp (mem_of_get? found))
    · exact get?_of_mem (ordered.nodup unique) ((same name value).mpr (mem_of_get? found))
  rw [eq_filterMap_of_sublist unique ordered, eq_filterMap_of_sublist unique ordered']
  simp only [found]

end Entries

namespace AddressQuery

/-! ### The first usable values -/

/-- The predicates that are looked for in the fields of an address. -/
def searched : List String :=
  [Address.fullText, Address.streetNumber, Address.street, Address.city, Address.state,
    Address.postalCode, Address.country]

/-- The fields have a usable value for a predicate. -/
def Has (fields : List (String × String)) (predicate : String) : Prop :=
  ∃ value, (predicate, value) ∈ fields ∧ Text.IsUsable value

/-- The value is the first usable one that the fields have for a predicate. -/
def IsFirst (fields : List (String × String)) (predicate value : String) : Prop :=
  ∃ before after, fields = before ++ (predicate, value) :: after ∧ Text.IsUsable value ∧
    ¬Has before predicate

variable {fields fields' before after : List (String × String)}
variable {predicate name value text : String}

/-- Whether a field gives the value of a part. -/
def gives (predicate : String) (field : String × String) : Bool :=
  field.1 = predicate && !Text.isBlankText field.2

theorem gives_iff :
    gives predicate (name, value) = true ↔ name = predicate ∧ Text.IsUsable value := by
  simp [gives, Text.isUsable_iff]

theorem part?_eq_map_find? (fields : List (String × String)) (predicate : String) :
    part? fields predicate =
      (fields.find? (gives predicate)).map fun field => Text.trimmed field.2 := rfl

theorem has_iff_exists_gives :
    Has fields predicate ↔ ∃ field ∈ fields, gives predicate field = true := by
  constructor
  · rintro ⟨value, member, usable⟩
    exact ⟨_, member, gives_iff.mpr ⟨rfl, usable⟩⟩
  · rintro ⟨⟨name, value⟩, member, gives⟩
    obtain ⟨rfl, usable⟩ := gives_iff.mp gives
    exact ⟨value, member, usable⟩

theorem part?_eq_none_iff : part? fields predicate = none ↔ ¬Has fields predicate := by
  rw [part?_eq_map_find?, Option.map_eq_none_iff, List.find?_eq_none, has_iff_exists_gives]
  push Not
  rfl

/-- A part is the first usable value of its predicate without the white space around it. -/
theorem part?_eq_some_iff : part? fields predicate = some text ↔
    ∃ value, IsFirst fields predicate value ∧ text = Text.trimmed value := by
  have found_iff (name value : String) : fields.find? (gives predicate) = some (name, value) ↔
      name = predicate ∧ IsFirst fields predicate value := by
    rw [List.find?_eq_some_iff_append, gives_iff]
    constructor
    · rintro ⟨⟨rfl, usable⟩, before, after, split, passed⟩
      refine ⟨rfl, before, after, split, usable, fun has => ?_⟩
      obtain ⟨field, member, gives⟩ := has_iff_exists_gives.mp has
      simpa [gives] using passed field member
    · rintro ⟨rfl, before, after, split, usable, fresh⟩
      refine ⟨⟨rfl, usable⟩, before, after, split, fun field member => ?_⟩
      rw [has_iff_exists_gives] at fresh
      push Not at fresh
      simpa using fresh field member
  rw [part?_eq_map_find?, Option.map_eq_some_iff]
  constructor
  · rintro ⟨⟨name, value⟩, found, rfl⟩
    exact ⟨value, ((found_iff name value).mp found).2, rfl⟩
  · rintro ⟨value, first, rfl⟩
    exact ⟨(predicate, value), (found_iff predicate value).mpr ⟨rfl, first⟩, rfl⟩

theorem exists_isFirst_iff : (∃ value, IsFirst fields predicate value) ↔ Has fields predicate := by
  constructor
  · rintro ⟨value, before, after, rfl, usable, _⟩
    exact ⟨value, by simp, usable⟩
  · intro has
    obtain ⟨text, part⟩ :=
      Option.ne_none_iff_exists'.mp (mt part?_eq_none_iff.mp (not_not_intro has))
    obtain ⟨value, first, _⟩ := part?_eq_some_iff.mp part
    exact ⟨value, first⟩

theorem part?_congr
    (same : ∀ value, IsFirst fields predicate value ↔ IsFirst fields' predicate value) :
    part? fields predicate = part? fields' predicate := by
  refine Option.ext fun text => ?_
  rw [part?_eq_some_iff, part?_eq_some_iff]
  simp only [same]

theorem isTight_of_part? (part : part? fields predicate = some text) : Text.IsTight text := by
  obtain ⟨value, ⟨_, _, _, usable, _⟩, rfl⟩ := part?_eq_some_iff.mp part
  exact usable.isTight_trimmed

/-! ### Rearranged fields -/

/-- Changes to the fields of an address that leave the first usable value of every part. -/
inductive Rearranges : List (String × String) → List (String × String) → Prop where
  /-- A field of a predicate that is not looked for is left out. -/
  | unsearched {before after : List (String × String)} {predicate value : String}
      (unsearched : predicate ∉ searched) :
      Rearranges (before ++ (predicate, value) :: after) (before ++ after)
  /-- A field with a blank value is left out. -/
  | blank {before after : List (String × String)} {predicate value : String}
      (blank : ¬Text.IsUsable value) :
      Rearranges (before ++ (predicate, value) :: after) (before ++ after)
  /-- A field behind a usable value of its predicate is left out. -/
  | repeated {before after : List (String × String)} {predicate value : String}
      (known : Has before predicate) :
      Rearranges (before ++ (predicate, value) :: after) (before ++ after)
  /-- Fields of different predicates change places. -/
  | reordered {fields fields' : List (String × String)}
      (kept : ∀ predicate, fields.filter (·.1 = predicate) = fields'.filter (·.1 = predicate)) :
      Rearranges fields fields'

theorem part?_append (before after : List (String × String)) (predicate : String) :
    part? (before ++ after) predicate = (part? before predicate).or (part? after predicate) := by
  simp only [part?_eq_map_find?, List.find?_append]
  cases before.find? (gives predicate) <;> rfl

theorem part?_cons_of_not_gives {field : String × String} (passed : gives predicate field = false)
    (after : List (String × String)) :
    part? (field :: after) predicate = part? after predicate := by
  rw [part?_eq_map_find?, List.find?_cons_of_neg (by simp [passed]), part?_eq_map_find?]

/-- A field may be left out if it is not looked at or if an earlier one is. -/
theorem part?_append_cons {field : String × String}
    (idle : gives predicate field = false ∨ Has before predicate) :
    part? (before ++ field :: after) predicate = part? (before ++ after) predicate := by
  rw [part?_append, part?_append]
  rcases idle with passed | known
  · rw [part?_cons_of_not_gives passed]
  · obtain ⟨text, found⟩ :=
      Option.ne_none_iff_exists'.mp (mt part?_eq_none_iff.mp (not_not_intro known))
    rw [found, Option.some_or, Option.some_or]

theorem part?_eq_filter (fields : List (String × String)) (predicate : String) :
    part? fields predicate = part? (fields.filter (·.1 = predicate)) predicate := by
  rw [part?_eq_map_find?, part?_eq_map_find?, List.find?_filter]
  refine congrArg (Option.map _) (congrArg (List.find? · fields) (funext fun field => ?_))
  simp [gives]

theorem Rearranges.part?_eq (h : Rearranges fields fields') (looked : predicate ∈ searched) :
    part? fields predicate = part? fields' predicate := by
  cases h with
  | @unsearched before after other value unsearched =>
      have differs : other ≠ predicate := fun same => unsearched (same ▸ looked)
      exact part?_append_cons (.inl (by simp [gives, differs]))
  | @blank before after other value blank =>
      have skipped : Text.isBlankText value = true := by simpa [Text.isUsable_iff] using blank
      exact part?_append_cons (.inl (by simp [gives, skipped]))
  | @repeated before after other value known =>
      by_cases same : other = predicate
      · exact part?_append_cons (.inr (same ▸ known))
      · exact part?_append_cons (.inl (by simp [gives, same]))
  | reordered kept => rw [part?_eq_filter, kept, ← part?_eq_filter]

theorem part?_eq_of_eqvGen (h : Relation.EqvGen Rearranges fields fields')
    (looked : predicate ∈ searched) : part? fields predicate = part? fields' predicate := by
  induction h with
  | rel _ _ step => exact step.part?_eq looked
  | refl _ => rfl
  | symm _ _ _ ih => exact ih.symm
  | trans _ _ _ _ _ first second => exact first.trans second

/-! ### What is searched for -/

/-- The parts that are searched for under names of their own, with their predicates. -/
def namedParts : List (String × String) :=
  [("city", Address.city), ("state", Address.state), ("postalcode", Address.postalCode),
    ("country", Address.country)]

def partNames : List String :=
  "street" :: namedParts.map Prod.fst

/-- A text is searched for under the name of a part. The line of the street is made of the house
number and the street, as far as they are there. -/
inductive Asks (fields : List (String × String)) : String → String → Prop where
  | line {number street : String} (first : IsFirst fields Address.streetNumber number)
      (first' : IsFirst fields Address.street street) :
      Asks fields "street" (Text.trimmed number ++ " " ++ Text.trimmed street)
  | street {street : String} (absent : ¬Has fields Address.streetNumber)
      (first : IsFirst fields Address.street street) : Asks fields "street" (Text.trimmed street)
  | number {number : String} (first : IsFirst fields Address.streetNumber number)
      (absent : ¬Has fields Address.street) : Asks fields "street" (Text.trimmed number)
  | part {name predicate value : String} (named : (name, predicate) ∈ namedParts)
      (first : IsFirst fields predicate value) : Asks fields name (Text.trimmed value)

/-- The parts of a structured search as far as they are known. -/
def slots (fields : List (String × String)) : List (String × Option String) :=
  ("street", streetLine? fields) ::
    namedParts.map fun (name, predicate) => (name, part? fields predicate)

def parts (fields : List (String × String)) : List (String × String) :=
  (slots fields).filterMap fun (name, value?) => value?.map (name, ·)

theorem ofFields?_eq (fields : List (String × String)) :
    ofFields? fields =
      match part? fields Address.fullText with
      | some text => some (.freeText text)
      | none => if (parts fields).isEmpty then none else some (.structured (parts fields)) := rfl

theorem mem_parts_iff : (name, text) ∈ parts fields ↔ (name, some text) ∈ slots fields := by
  rw [parts, List.mem_filterMap]
  constructor
  · rintro ⟨⟨_, value?⟩, member, there⟩
    obtain ⟨_, rfl, same⟩ := Option.map_eq_some_iff.mp there
    cases same
    exact member
  · intro member
    exact ⟨_, member, rfl⟩

theorem names_slots (fields : List (String × String)) :
    (slots fields).map Prod.fst = partNames := rfl

theorem names_parts_sublist (fields : List (String × String)) :
    ((parts fields).map Prod.fst).Sublist partNames := by
  rw [← names_slots fields, parts]
  induction slots fields with
  | nil => exact .slnil
  | cons slot slots ih =>
      obtain ⟨name, value?⟩ := slot
      cases value? with
      | none => exact ih.cons name
      | some value => exact ih.cons_cons name

theorem nodup_partNames : partNames.Nodup := by decide

/-- The line of the street is there exactly if one of its two parts is. -/
theorem streetLine?_eq_some_iff : streetLine? fields = some text ↔
    (∃ number street, part? fields Address.streetNumber = some number ∧
      part? fields Address.street = some street ∧ text = number ++ " " ++ street) ∨
    part? fields Address.streetNumber = none ∧ part? fields Address.street = some text ∨
    part? fields Address.streetNumber = some text ∧ part? fields Address.street = none := by
  rw [streetLine?]
  cases part? fields Address.streetNumber <;> cases part? fields Address.street <;>
    simp [eq_comm]

theorem streetLine?_eq_none_iff : streetLine? fields = none ↔
    part? fields Address.streetNumber = none ∧ part? fields Address.street = none := by
  rw [streetLine?]
  cases part? fields Address.streetNumber <;> cases part? fields Address.street <;> simp

theorem asks_street_iff : streetLine? fields = some text ↔ Asks fields "street" text := by
  rw [streetLine?_eq_some_iff]
  constructor
  · rintro (⟨number, street, known, known', rfl⟩ | ⟨absent, known⟩ | ⟨known, absent⟩)
    · obtain ⟨_, first, rfl⟩ := part?_eq_some_iff.mp known
      obtain ⟨_, first', rfl⟩ := part?_eq_some_iff.mp known'
      exact .line first first'
    · obtain ⟨_, first, rfl⟩ := part?_eq_some_iff.mp known
      exact .street (part?_eq_none_iff.mp absent) first
    · obtain ⟨_, first, rfl⟩ := part?_eq_some_iff.mp known
      exact .number first (part?_eq_none_iff.mp absent)
  · intro asks
    generalize called : "street" = name at asks
    cases asks with
    | line first first' =>
        exact .inl ⟨_, _, part?_eq_some_iff.mpr ⟨_, first, rfl⟩,
          part?_eq_some_iff.mpr ⟨_, first', rfl⟩, rfl⟩
    | street absent first =>
        exact .inr (.inl ⟨part?_eq_none_iff.mpr absent, part?_eq_some_iff.mpr ⟨_, first, rfl⟩⟩)
    | number first absent =>
        exact .inr (.inr ⟨part?_eq_some_iff.mpr ⟨_, first, rfl⟩, part?_eq_none_iff.mpr absent⟩)
    | part named _ =>
        have unnamed : ∀ named ∈ namedParts, named.1 ≠ "street" := by decide
        exact absurd called.symm (unnamed _ named)

theorem mem_parts_iff_asks : (name, text) ∈ parts fields ↔ Asks fields name text := by
  rw [mem_parts_iff, slots, List.mem_cons]
  constructor
  · rintro (same | member)
    · obtain ⟨rfl, line⟩ := Prod.mk.inj same
      exact asks_street_iff.mp line.symm
    · obtain ⟨⟨_, predicate⟩, named, same⟩ := List.mem_map.mp member
      obtain ⟨rfl, known⟩ := Prod.mk.inj same
      obtain ⟨_, first, rfl⟩ := part?_eq_some_iff.mp known
      exact .part named first
  · intro asks
    by_cases street : name = "street"
    · subst street
      exact .inl (congrArg _ (asks_street_iff.mpr asks).symm)
    · cases asks with
      | line | street | number => exact absurd rfl street
      | part named first =>
          exact .inr
            (List.mem_map.mpr ⟨_, named, congrArg _ (part?_eq_some_iff.mpr ⟨_, first, rfl⟩)⟩)

theorem Asks.isTight (asks : Asks fields name text) : Text.IsTight text := by
  have tight {predicate value : String} (first : IsFirst fields predicate value) :
      Text.IsTight (Text.trimmed value) := isTight_of_part? (part?_eq_some_iff.mpr ⟨_, first, rfl⟩)
  cases asks with
  | line first first' => exact (tight first).append " " (tight first')
  | street _ first | number first _ | part _ first => exact tight first

/-- There is nothing to search for by parts exactly if none of their predicates has a usable
value. -/
theorem parts_eq_nil_iff :
    parts fields = [] ↔ ∀ predicate ∈ searched.tail, ¬Has fields predicate := by
  have open_iff : parts fields = [] ↔ ∀ slot ∈ slots fields, slot.2 = none := by
    simp [parts, List.filterMap_eq_nil_iff]
  have listed : searched.tail = Address.streetNumber :: Address.street ::
      namedParts.map Prod.snd := rfl
  rw [open_iff, slots, List.forall_mem_cons, List.forall_mem_map, streetLine?_eq_none_iff, listed,
    List.forall_mem_cons, List.forall_mem_cons, List.forall_mem_map, and_assoc]
  simp only [part?_eq_none_iff]

/-! ### The kinds of search -/

theorem ofFields?_eq_none_iff :
    ofFields? fields = none ↔ ∀ predicate ∈ searched, ¬Has fields predicate := by
  have listed : searched = Address.fullText :: searched.tail := rfl
  rw [listed, List.forall_mem_cons, ← parts_eq_nil_iff, ← part?_eq_none_iff, ofFields?_eq]
  cases part? fields Address.fullText <;> simp

theorem ofFields?_eq_freeText_iff :
    ofFields? fields = some (.freeText text) ↔ part? fields Address.fullText = some text := by
  rw [ofFields?_eq]
  cases part? fields Address.fullText with
  | some line => simp
  | none => by_cases empty : (parts fields).isEmpty <;> simp [empty]

theorem ofFields?_eq_structured_iff {searches : List (String × String)} :
    ofFields? fields = some (.structured searches) ↔
      part? fields Address.fullText = none ∧ searches ≠ [] ∧ searches = parts fields := by
  rw [ofFields?_eq]
  cases part? fields Address.fullText with
  | some line => simp
  | none =>
      cases parts fields with
      | nil => simp
      | cons first others => simp +contextual [eq_comm]

theorem exists_freeText_iff :
    (∃ text, ofFields? fields = some (.freeText text)) ↔ Has fields Address.fullText := by
  rw [← exists_isFirst_iff]
  constructor
  · rintro ⟨text, called⟩
    obtain ⟨value, first, _⟩ := part?_eq_some_iff.mp (ofFields?_eq_freeText_iff.mp called)
    exact ⟨value, first⟩
  · rintro ⟨value, first⟩
    exact ⟨_, ofFields?_eq_freeText_iff.mpr (part?_eq_some_iff.mpr ⟨value, first, rfl⟩)⟩

/-- A structured search is told by what it asks for, since the names have a fixed order. -/
theorem structured_iff_asks {searches : List (String × String)} :
    ofFields? fields = some (.structured searches) ↔
      ¬Has fields Address.fullText ∧ searches ≠ [] ∧ (searches.map Prod.fst).Sublist partNames ∧
      ∀ name text, (name, text) ∈ searches ↔ Asks fields name text := by
  rw [ofFields?_eq_structured_iff, part?_eq_none_iff]
  refine and_congr_right fun _ => and_congr_right fun _ => ⟨?_, fun ⟨ordered, asked⟩ => ?_⟩
  · rintro rfl
    exact ⟨names_parts_sublist fields, fun name text => mem_parts_iff_asks⟩
  · apply Entries.eq_of_mem_iff nodup_partNames ordered (names_parts_sublist fields)
    intro name text
    exact (asked name text).trans mem_parts_iff_asks.symm

theorem ofFields?_congr
    (same : ∀ predicate ∈ searched, part? fields predicate = part? fields' predicate) :
    ofFields? fields = ofFields? fields' := by
  have slots_eq : slots fields = slots fields' := by
    have named : ∀ named ∈ namedParts, named.2 ∈ searched := by decide
    rw [slots, slots, streetLine?, streetLine?, same _ (by decide), same _ (by decide)]
    refine congrArg _ (List.map_congr_left fun part member => ?_)
    exact congrArg _ (same _ (named part member))
  rw [ofFields?_eq, ofFields?_eq, same _ (by decide), parts, parts, slots_eq]

/-- What is searched for depends only on the first usable values of the seven predicates that are
looked for. So it stays the same if fields of other predicates, blank fields or repetitions are left
out and if fields of different predicates change places. Nothing is searched for exactly if none of
the predicates has a usable value, and a full address line is searched for exactly if there is one.
Otherwise the known parts are searched for, each once and in a fixed order, and none of the texts is
empty or has white space at an end. -/
theorem query_of_usable_parts (fields : List (String × String)) :
    let query := ofFields? fields
    (∀ fields', (∀ predicate ∈ searched, ∀ value,
      IsFirst fields predicate value ↔ IsFirst fields' predicate value) →
        ofFields? fields' = query) ∧
    (∀ fields', Relation.EqvGen Rearranges fields fields' → ofFields? fields' = query) ∧
    (query = none ↔ ∀ predicate ∈ searched, ¬Has fields predicate) ∧
    (∀ text, query = some (.freeText text) ↔
      ∃ value, IsFirst fields Address.fullText value ∧ text = Text.trimmed value) ∧
    ((∃ text, query = some (.freeText text)) ↔ Has fields Address.fullText) ∧
    (query ≠ none → ¬Has fields Address.fullText → ∃ parts, query = some (.structured parts)) ∧
    (∀ parts, query = some (.structured parts) ↔ ¬Has fields Address.fullText ∧ parts ≠ [] ∧
      (parts.map Prod.fst).Sublist ["street", "city", "state", "postalcode", "country"] ∧
      ∀ name text, (name, text) ∈ parts ↔ Asks fields name text) ∧
    (∀ parts, query = some (.structured parts) →
      (parts.map Prod.fst).Nodup ∧ ∀ part ∈ parts, part.2 ≠ "" ∧ Text.IsTight part.2) := by
  intro query
  refine ⟨fun fields' same => ?_, fun fields' related => ?_, ofFields?_eq_none_iff, fun text => ?_,
    exists_freeText_iff, fun called absent => ?_, fun searches => structured_iff_asks,
    fun searches called => ?_⟩
  · exact (ofFields?_congr fun predicate looked => part?_congr (same predicate looked)).symm
  · exact (ofFields?_congr fun predicate => part?_eq_of_eqvGen related).symm
  · rw [ofFields?_eq_freeText_iff, part?_eq_some_iff]
  · cases found : query with
    | none => exact absurd found called
    | some kind =>
        cases kind with
        | freeText text => exact absurd (exists_freeText_iff.mp ⟨text, found⟩) absent
        | structured searches => exact ⟨searches, rfl⟩
  · obtain ⟨_, _, ordered, asked⟩ := structured_iff_asks.mp called
    refine ⟨ordered.nodup nodup_partNames, fun part member => ?_⟩
    have tight : Text.IsTight part.2 := ((asked _ _).mp member).isTight
    exact ⟨tight.ne_empty, tight⟩

/-! ### A place with repeated fields -/

/-- Fields of a place, with blank and repeated values among them. -/
def crowdedFields : List (String × String) :=
  [("name", "Town hall"), ("locationCity", "  "), ("locationStreet", " Main St "),
    ("locationCity", "Springfield"), ("locationCity", "Shelbyville"),
    ("locationStreetNumberText", "12")]

/-- What is searched for at the place is told by one field for each part, in whatever order. -/
theorem query_of_usable_parts_crowded :
    let tidy := [("locationStreetNumberText", "12"), ("locationCity", "Springfield"),
      ("locationStreet", " Main St ")]
    Relation.EqvGen Rearranges crowdedFields tidy ∧
    ofFields? tidy = ofFields? crowdedFields ∧
    ofFields? crowdedFields =
      some (.structured [("street", "12 Main St"), ("city", "Springfield")]) ∧
    (∀ part ∈ [("street", "12 Main St"), ("city", "Springfield")],
      part.2 ≠ "" ∧ Text.IsTight part.2) := by
  intro tidy
  let once := [("locationStreet", " Main St "), ("locationCity", "Springfield"),
    ("locationStreetNumberText", "12")]
  have unsearched : Rearranges crowdedFields (crowdedFields.drop 1) :=
    @Rearranges.unsearched [] _ "name" "Town hall" (by decide)
  have blank : Rearranges (crowdedFields.drop 1) (crowdedFields.drop 2) :=
    @Rearranges.blank [] _ "locationCity" "  " (by decide)
  have repeated : Rearranges (crowdedFields.drop 2) once :=
    @Rearranges.repeated (once.take 2) (once.drop 2) "locationCity" "Shelbyville"
      ⟨"Springfield", by decide, by decide⟩
  have reordered : Rearranges once tidy := by
    refine .reordered fun predicate => ?_
    by_cases city : predicate = "locationCity"
    · subst city
      decide
    by_cases number : predicate = "locationStreetNumberText"
    · subst number
      decide
    simp [once, tidy, List.filter_cons, Ne.symm city, Ne.symm number]
  have related : Relation.EqvGen Rearranges crowdedFields tidy :=
    .trans _ _ _ (.rel _ _ unsearched) <| .trans _ _ _ (.rel _ _ blank) <|
      .trans _ _ _ (.rel _ _ repeated) (.rel _ _ reordered)
  obtain ⟨_, rearranged, _, _, _, _, _, tight⟩ := query_of_usable_parts crowdedFields
  have called : ofFields? crowdedFields =
      some (.structured [("street", "12 Main St"), ("city", "Springfield")]) := by decide
  exact ⟨related, rearranged tidy related, called, (tight _ called).2⟩

end AddressQuery

end RowTriples
