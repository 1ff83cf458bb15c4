import Mathlib.Data.Set.Function
import RowTriples.Proofs.Entity.Contract
import RowTriples.Proofs.Json.Canonical
/-!
# What identifiers by content tell apart

An identifier by content is the digest of a text: the symbol, the values and the identifiers of the
links as a JSON array and, within one file, the name of the file behind it. The array marks its own
end, so the text can be taken apart again, and two texts agree only where all their parts do. As far
as digests do not collide, the same holds of the identifiers.

That no two texts at all have the same digest cannot be: there are more texts than digests. What is
assumed is that the texts in question have different ones.
-/

namespace RowTriples

/-! ### The parts of a content -/

/-- The JSON form of the value of a column in the content of an entity. A missing value counts as
empty text. -/
def Row.contentValue (row : Row) (name : String) : Json :=
  match row.get? name with
  | none | some .null => .string ""
  | some value => value.toJson

/-- What a rule contributes to the content of an entity. -/
def Rule.contentPart? (row : Row) (rule : Rule) : Option ContentPart :=
  match rule.target with
  | .column name => some (.value (row.contentValue name))
  | .symbol name => some (.link name)
  | .type | .repeated _ _ => none

def ContentPart.json (ids : Identifiers) : ContentPart → Json
  | .value form => form
  | .link symbol =>
    match Entries.get? symbol ids with
    | some id => .string id
    | none => .null

def ContentPart.chars (ids : Identifiers) (part : ContentPart) : List Char :=
  (part.json ids).canonical.chars

theorem Entry.contentParts_eq (entry : Entry) (row : Row) :
    entry.contentParts row =
      .value (.string entry.symbol) :: entry.rules.filterMap (Rule.contentPart? row) := by
  refine congrArg (List.cons _) (List.filterMap_congr fun rule _ => ?_)
  obtain ⟨target, predicates⟩ := rule
  cases target with
  | column name =>
      simp only [Rule.contentPart?, Row.contentValue]
      cases row.get? name with
      | none => rfl
      | some value => cases value <;> rfl
  | type => rfl
  | symbol name => rfl
  | repeated name symbol => rfl

namespace Identifiers

variable {ids ids' : Identifiers} {mode : Mode} {file file' : String}
variable {parts parts' : List ContentPart}

theorem toList_contentText (ids : Identifiers) (mode : Mode) (file : String)
    (parts : List ContentPart) :
    (contentText ids mode file parts).toList =
      (Json.array (parts.map fun part => (part.json ids).canonical)).chars ++
        if mode = .file then file.toList else [] := by
  have json : contentJson ids parts = .array (parts.map (ContentPart.json ids)) := by
    refine congrArg Json.array (List.map_congr_left fun part _ => ?_)
    cases part <;> rfl
  simp only [contentText, json, Json.canonicalText, Json.canonical, Json.canonicalItems_eq_map,
    List.map_map, Json.compact]
  split <;> simp [Function.comp_def]

/-- The text of a content can be taken apart into its parts and the name of the file. -/
theorem contentText_eq_iff :
    contentText ids mode file parts = contentText ids' mode file' parts' ↔
      parts.map (ContentPart.chars ids) = parts'.map (ContentPart.chars ids') ∧
      (mode = .file → file = file') := by
  rw [← String.toList_inj, toList_contentText, toList_contentText]
  constructor
  · intro same
    obtain ⟨sameParts, sameFile⟩ := Json.array_append_inj same
    simp only [List.map_map] at sameParts
    refine ⟨sameParts, fun within => ?_⟩
    rw [if_pos within, if_pos within] at sameFile
    exact String.toList_inj.mp sameFile
  · rintro ⟨sameParts, sameFile⟩
    refine congrArg₂ _
      (Json.chars_array_congr (by rw [List.map_map, List.map_map]; exact sameParts)) ?_
    split
    next within => rw [sameFile within]
    next => rfl

end Identifiers

/-! ### Entities of the same content -/

/-- Two entities of one entry have the same content: the canonical forms of the values of each
column agree, the links lead to the same identifiers and, within one file, the file is the same. -/
structure Entry.SameContent (mode : Mode) (file file' : String) (row row' : Row)
    (ids ids' : Identifiers) (entry : Entry) : Prop where
  columns : ∀ name rule, (name, rule) ∈ entry.columnRules →
    (row.contentValue name).canonicalText = (row'.contentValue name).canonicalText
  links : ∀ target ∈ entry.links, Entries.get? target ids = Entries.get? target ids'
  file : mode = .file → file = file'

section SameContent

variable {mode : Mode} {file file' : String} {row row' : Row} {ids ids' : Identifiers}

/-- Lists of what the same elements contribute agree if each contribution does. -/
theorem filterMap_eq_filterMap_iff {α β : Type} {f g : α → Option β} {xs : List α}
    (shape : ∀ x, (f x).isSome = (g x).isSome) :
    xs.filterMap f = xs.filterMap g ↔ ∀ x ∈ xs, f x = g x := by
  refine ⟨fun same => ?_, List.filterMap_congr⟩
  induction xs with
  | nil => simp
  | cons x xs ih =>
      have alike := shape x
      cases left : f x with
      | none =>
          have right : g x = none := by simpa [left] using alike
          rw [List.filterMap_cons_none left, List.filterMap_cons_none right] at same
          exact List.forall_mem_cons.mpr ⟨left.trans right.symm, ih same⟩
      | some y =>
          obtain ⟨z, right⟩ : ∃ z, g x = some z := by
            rw [← Option.isSome_iff_exists, ← alike, left]
            rfl
          rw [List.filterMap_cons_some left, List.filterMap_cons_some right] at same
          obtain ⟨head, tail⟩ := List.cons.inj same
          exact List.forall_mem_cons.mpr ⟨by rw [left, right, head], ih tail⟩

theorem ContentPart.chars_value_eq_iff {form form' : Json} :
    chars ids (.value form) = chars ids' (.value form') ↔
      form.canonicalText = form'.canonicalText :=
  Json.canonicalText_inj.symm

/-- An identifier is told apart from other ones, and from none. -/
theorem ContentPart.chars_link_eq_iff {target : String} :
    chars ids (.link target) = chars ids' (.link target) ↔
      Entries.get? target ids = Entries.get? target ids' := by
  refine ⟨fun same => ?_, fun same => by simp only [chars, json, same]⟩
  simp only [chars, json] at same
  cases left : Entries.get? target ids with
  | none =>
      cases right : Entries.get? target ids' with
      | none => rfl
      | some id' =>
          simp only [left, right] at same
          cases same
  | some id =>
      cases right : Entries.get? target ids' with
      | none =>
          simp only [left, right] at same
          cases same
      | some id' =>
          simp only [left, right] at same
          have same : Json.quoted id ++ [] = Json.quoted id' ++ [] := congrArg (· ++ []) same
          rw [(Json.quoted_append_inj same).1]

/-- The texts of two entities of one entry agree exactly if their contents do. The name of the file
at the end makes no two contents alike. -/
theorem Entry.contentText_eq_iff {entry : Entry} :
    Identifiers.contentText ids mode file (entry.contentParts row) =
        Identifiers.contentText ids' mode file' (entry.contentParts row') ↔
      entry.SameContent mode file file' row row' ids ids' := by
  -- Whether a rule contributes depends on its target alone, so the parts correspond rule by rule.
  have shape (rule : Rule) : ((rule.contentPart? row).map (ContentPart.chars ids)).isSome =
      ((rule.contentPart? row').map (ContentPart.chars ids')).isSome := by
    unfold Rule.contentPart?
    split <;> rfl
  rw [Identifiers.contentText_eq_iff, Entry.contentParts_eq, Entry.contentParts_eq, List.map_cons,
    List.map_cons, List.map_filterMap, List.map_filterMap, List.cons.injEq,
    filterMap_eq_filterMap_iff shape]
  constructor
  · rintro ⟨⟨_, same⟩, sameFile⟩
    refine ⟨fun name rule member => ?_, fun target link => ?_, sameFile⟩
    · obtain ⟨member, target⟩ := mem_columnRules_iff.mp member
      have same := same rule member
      simp only [Rule.contentPart?, target, Option.map_some, Option.some.injEq] at same
      exact ContentPart.chars_value_eq_iff.mp same
    · obtain ⟨rule, member, target⟩ := mem_links_iff.mp link
      have same := same rule member
      simp only [Rule.contentPart?, target, Option.map_some, Option.some.injEq] at same
      exact ContentPart.chars_link_eq_iff.mp same
  · rintro ⟨columns, links, sameFile⟩
    refine ⟨⟨rfl, fun rule member => ?_⟩, sameFile⟩
    unfold Rule.contentPart?
    split
    next name target =>
      have same := columns name rule (mem_columnRules_iff.mpr ⟨member, target⟩)
      exact congrArg some (ContentPart.chars_value_eq_iff.mpr same)
    next name target =>
      have same := links name (mem_links_iff.mpr ⟨rule, member, target⟩)
      exact congrArg some (ContentPart.chars_link_eq_iff.mpr same)
    next => rfl
    next => rfl

/-- The text of an entity begins with its symbol. -/
theorem Entry.symbol_eq_of_contentText {entry other : Entry}
    (same : Identifiers.contentText ids mode file (entry.contentParts row) =
      Identifiers.contentText ids' mode file' (other.contentParts row')) :
    entry.symbol = other.symbol := by
  rw [Identifiers.contentText_eq_iff, Entry.contentParts_eq, Entry.contentParts_eq, List.map_cons,
    List.map_cons] at same
  have first : Json.quoted entry.symbol ++ [] = Json.quoted other.symbol ++ [] :=
    congrArg (· ++ []) (List.cons.inj same.1).1
  exact (Json.quoted_append_inj first).1

end SameContent

/-! ### Two identifications -/

structure Identification where
  setting : Setting
  entries : List Entry
  options : Options
  row : Row
  element : Option Nat
  inherited : Identifiers
  progress : Progress
  ids : Identifiers
  deterministic : setting.mode.isDeterministic = true
  done : ((Expanding.identify setting entries options row element inherited).run progress).1 =
    .ok ids

namespace Identification

/-- The entry gets its identifier from its content: it is the first to declare its symbol, which is
neither inherited nor supplied by a column. -/
def IsPending (run : Identification) (entry : Entry) : Prop :=
  entry.IsPending run.row run.entries run.inherited

/-- The text whose digest identifies an entry. -/
def text (run : Identification) (entry : Entry) : String :=
  Identifiers.contentText run.ids run.setting.mode run.setting.file (entry.contentParts run.row)

def texts (run : Identification) : Set String :=
  {text | ∃ entry, run.IsPending entry ∧ text = run.text entry}

theorem resolves (run : Identification) :
    Resolves run.setting.mode run.setting.file run.row run.entries run.inherited run.ids :=
  Expanding.yields_identify_deterministic run.deterministic (Prod.ext run.done rfl)

end Identification

/-- Identifiers by content are exactly contents, as far as digests do not collide. Where an entry
gets its identifier from its content in two identifications, the two identifiers agree if and only
if the values of all columns, the identifiers of all links and, within one file, the names of the
files do. Entries with different symbols never get the same identifier, whether in one scope or
in two. The texts behind the identifiers tell as much without any assumption on digests. -/
theorem content_identifiers (first second : Identification)
    (mode : second.setting.mode = first.setting.mode)
    (distinct : Set.InjOn Digest.contentId (first.texts ∪ second.texts)) :
    (∀ entry, first.IsPending entry → second.IsPending entry → ∃ id id',
      Entries.get? entry.symbol first.ids = some id ∧
      Entries.get? entry.symbol second.ids = some id' ∧
      (id = id' ↔ entry.SameContent first.setting.mode first.setting.file second.setting.file
        first.row second.row first.ids second.ids) ∧
      (first.text entry = second.text entry ↔ entry.SameContent first.setting.mode
        first.setting.file second.setting.file first.row second.row first.ids second.ids)) ∧
    ∀ entry other, first.IsPending entry → second.IsPending other → entry.symbol ≠ other.symbol →
      Entries.get? entry.symbol first.ids ≠ Entries.get? other.symbol second.ids := by
  have separated {entry other : Entry} (pending : first.IsPending entry)
      (pending' : second.IsPending other) :
      Digest.contentId (first.text entry) = Digest.contentId (second.text other) ↔
        first.text entry = second.text other :=
    distinct.eq_iff (.inl ⟨entry, pending, rfl⟩) (.inr ⟨other, pending', rfl⟩)
  have texts (entry : Entry) : first.text entry = second.text entry ↔
      entry.SameContent first.setting.mode first.setting.file second.setting.file first.row
        second.row first.ids second.ids := by
    rw [Identification.text, Identification.text, mode]
    exact Entry.contentText_eq_iff
  refine ⟨fun entry pending pending' => ?_, fun entry other pending pending' differ same => ?_⟩
  · refine ⟨_, _, first.resolves.content entry pending, second.resolves.content entry pending', ?_,
      texts entry⟩
    exact (separated pending pending').trans (texts entry)
  · rw [first.resolves.content entry pending, second.resolves.content other pending',
      Option.some.injEq] at same
    have same : first.text entry = second.text other := (separated pending pending').mp same
    rw [Identification.text, Identification.text, mode] at same
    exact differ (Entry.symbol_eq_of_contentText same)

/-! ### One resident in two files -/

/-- A person who lives at an address declared later and is a member of the household around. -/
def residentEntries : List Entry :=
  [⟨"Person", "person", [⟨.type, []⟩, ⟨.symbol "address", ["livesAt"]⟩,
      ⟨.symbol "household", ["memberOf"]⟩]⟩,
    ⟨"Address", "address", [⟨.type, []⟩, ⟨.column "city", ["city"]⟩]⟩]

/-- The scope of a resident, identified apart from those of other files. -/
def residentIn (file : String) : Identification where
  setting := { globalSetting with mode := .file, file }
  entries := residentEntries
  options := {}
  row := householdRow
  element := none
  inherited := [("household", "h1")]
  progress := {}
  ids := ((Expanding.identify { globalSetting with mode := .file, file } residentEntries {}
    householdRow none [("household", "h1")]).run {}).1.toOption.getD []
  deterministic := rfl
  done := rfl

/-- The texts of all entries of the scope in two files have different digests. -/
theorem injOn_contentId_resident : Set.InjOn Digest.contentId
    ((residentIn "people_0.nt").texts ∪ (residentIn "people_1.nt").texts) := by
  let texts := residentEntries.map (residentIn "people_0.nt").text ++
    residentEntries.map (residentIn "people_1.nt").text
  have distinct : (texts.map Digest.contentId).Nodup := by decide +kernel
  have listed : (residentIn "people_0.nt").texts ∪ (residentIn "people_1.nt").texts ⊆
      {text | text ∈ texts} := by
    rintro _ (⟨entry, pending, rfl⟩ | ⟨entry, pending, rfl⟩)
    · exact List.mem_append_left _ (List.mem_map_of_mem pending.mem)
    · exact List.mem_append_right _ (List.mem_map_of_mem pending.mem)
  exact fun _ member _ member' same =>
    List.inj_on_of_nodup_map distinct (listed member) (listed member') same

theorem content_identifiers_resident :
    (residentIn "people_1.nt").setting.mode = (residentIn "people_0.nt").setting.mode ∧
    Set.InjOn Digest.contentId
      ((residentIn "people_0.nt").texts ∪ (residentIn "people_1.nt").texts) ∧
    ∃ id id', Entries.get? "person" (residentIn "people_0.nt").ids = some id ∧
      Entries.get? "person" (residentIn "people_1.nt").ids = some id' ∧ id ≠ id' := by
  let person := residentEntries.head (by decide)
  have pending : (residentIn "people_0.nt").IsPending person :=
    ⟨rfl, by decide, Row.boundId?_eq_none_iff.mp rfl⟩
  have pending' : (residentIn "people_1.nt").IsPending person :=
    ⟨rfl, by decide, Row.boundId?_eq_none_iff.mp rfl⟩
  obtain ⟨id, id', found, found', same, _⟩ :=
    (content_identifiers (residentIn "people_0.nt") (residentIn "people_1.nt") rfl
      injOn_contentId_resident).1 person pending pending'
  refine ⟨rfl, injOn_contentId_resident, id, id', found, found', fun equal => ?_⟩
  exact absurd ((same.mp equal).file rfl) (by decide)

end RowTriples
