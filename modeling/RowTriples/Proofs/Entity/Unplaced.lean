import RowTriples.Proofs.Entity.Steady
/-!
# Rows that stand nowhere

A row is expanded in a setting, which knows the file and the number of the row. Where content
decides on identifiers everywhere and nothing is looked up, the expansion does not look at them: by
induction on the template, its meaning is the one that it has for a row that stands nowhere. Then
neither does the expansion look at what the rows before it have taken from outside, so what a row
comes to is a function of its cells.
-/

namespace RowTriples

/-- The setting of a row of no file. -/
def Setting.unplaced (language : Language) : Setting :=
  { language, mode := .global, fresh := fun _ => "", file := "", row := 0 }

/-! ### Identifiers -/

namespace Identifiers

variable {file file' : String} {row : Row} {ids inherited : Identifiers}

theorem contentText_global {parts : List ContentPart} :
    contentText ids .global file parts = contentText ids .global file' parts := by
  have elsewhere : ¬Mode.global = Mode.file := by decide
  rw [contentText, contentText, if_neg elsewhere, if_neg elsewhere]

theorem identifyPending_global (file file' : String) {pending : List Entry} :
    identifyPending .global file row pending ids =
      identifyPending .global file' row pending ids := by
  have identify : Entry.contentId .global file row = Entry.contentId .global file' row := by
    funext ids entry
    rw [Entry.contentId, Entry.contentId, contentText_global]
  rw [identifyPending, identifyPending, identify]

theorem byContent_global {entries : List Entry} :
    byContent .global file row entries inherited =
      byContent .global file' row entries inherited := by
  simp only [byContent, identifyPending_global file file']

end Identifiers

/-! ### Templates -/

namespace Expanding

variable {setting : Setting} {options : Options} {row : Row} {element : Option Nat}
variable {ids inherited : Identifiers} {parts : Parts}

section Unplaced

variable (global : setting.mode = .global) (absent : setting.geocoder = none)
include global

theorem isDeterministic_of_global : setting.mode.isDeterministic = true := by
  rw [global]
  rfl

theorem identify_unplaced {entries : List Entry} :
    identify setting entries options row element inherited =
      identify (.unplaced setting.language) entries options row element inherited := by
  rw [identify, identify, if_pos (isDeterministic_of_global global),
    if_pos (isDeterministic_of_global rfl), global]
  exact congrArg (fun result => ExceptT.mk (pure result)) Identifiers.byContent_global

theorem repeatFor_unplaced {subtemplate symbol variableName : String} {meaning : Meaning} {i : Nat}
    {values : List Datum} :
    repeatFor setting options row ids subtemplate symbol variableName meaning i values =
      repeatFor (.unplaced setting.language) options row ids subtemplate symbol variableName meaning
        i values := by
  induction values generalizing i with
  | nil => rfl
  | cons value values ih =>
      rw [repeatFor_cons, repeatFor_cons,
        seedFor_deterministic (isDeterministic_of_global global),
        seedFor_deterministic (isDeterministic_of_global rfl), pure_bind, pure_bind]
      simp only [ih]

theorem fact_unplaced {entry : Entry} {rule : Rule} :
    fact setting options row ids parts entry rule =
      fact (.unplaced setting.language) options row ids parts entry rule := by
  unfold fact
  simp only [repeatFor_unplaced global]

theorem facts_unplaced {entry : Entry} {rules : List Rule} :
    facts setting options row ids parts entry rules =
      facts (.unplaced setting.language) options row ids parts entry rules := by
  induction rules with
  | nil => rfl
  | cons rule rules ih => rw [facts, facts, fact_unplaced global, ih]

theorem entities_unplaced {entries : List Entry} :
    entities setting options row ids parts entries =
      entities (.unplaced setting.language) options row ids parts entries := by
  induction entries with
  | nil => rfl
  | cons entry entries ih => rw [entities, entities, facts_unplaced global, ih]

omit global in
include absent in
theorem lookUpAll_unplaced {entries : List Entry} :
    lookUpAll setting options row ids entries =
      lookUpAll (.unplaced setting.language) options row ids entries := by
  induction entries with
  | nil => rfl
  | cons entry entries ih =>
      have unavailable (query : AddressQuery) :
          lookUp setting query = lookUp (.unplaced setting.language) query := by
        rw [lookUp, lookUp, absent]
        rfl
      simp only [lookUpAll, unavailable, ih]
      rfl

include absent

/-- By induction on the template: the setting plays no part in any of the steps that it takes. -/
theorem template_unplaced (t : Template) :
    template setting t = template (.unplaced setting.language) t := by
  induction t using Template.nested with
  | step t inside =>
      obtain ⟨entries, subtemplates, bindings, options⟩ := t
      have parts : subtemplatesOf setting subtemplates =
          subtemplatesOf (.unplaced setting.language) subtemplates := by
        rw [subtemplatesOf_eq_map, subtemplatesOf_eq_map]
        exact List.map_congr_left fun part member => by rw [inside part member]
      simp only [template, parts]
      unfold scope
      simp only [identify_unplaced global, lookUpAll_unplaced absent, entities_unplaced global]

end Unplaced

end Expanding

/-! ### Rows -/

/-- What cells come to as a row that stands nowhere. -/
def outcome (language : Language) (t : Template) (header : Header) (cells : List Datum) :
    Except ExpansionError Expansion :=
  (expandRow (.unplaced language) t header cells {}).1

open Expanding in
/-- Neither the setting of a row nor what has been taken before it plays a part in its expansion,
and the row takes nothing. -/
theorem expandRow_unplaced {setting : Setting} (global : setting.mode = .global)
    (absent : setting.geocoder = none) (t : Template) (header : Header) (cells : List Datum)
    (progress : Progress) :
    expandRow setting t header cells progress =
      (outcome setting.language t header cells, progress) := by
  have deterministic : (Setting.unplaced setting.language).mode.isDeterministic = true := rfl
  have alone : (Setting.unplaced setting.language).geocoder = none := rfl
  obtain ⟨_, runs⟩ := steady_template deterministic alone t { header, cells } [] none
  simp only [outcome, expandRow, Expanding.row, template_unplaced global absent]
  rw [runs, runs]
  rfl

end RowTriples
