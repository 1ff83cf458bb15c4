import RowTriples.Proofs.Conversion.Rows
import RowTriples.Proofs.Entity.Unplaced
/-!
# Tables after one another

Where content decides on identifiers everywhere and nothing is looked up, a row has the same lines
wherever it stands. So the text of a table, taken over all its chunks, is put together from the
lines of its rows, and a table that consists of two has the texts of both. How the rows are dealt
out to chunks, what the chunks are called, and which records were left out in between does not
matter.
-/

namespace RowTriples

def Conversion.text (c : Conversion) : String :=
  String.join (c.chunks.map Chunk.text)

/-- The plan converts the rows of tables with a header by a template, and nothing but their content
plays a part in it. -/
structure Plan.GoesByContent (plan : Plan) (language : Language) (t : Template) (header : Header) :
    Prop where
  mode : plan.mode = .global
  geocoder : plan.geocoder = none
  language : plan.language = language
  template : plan.template = t
  header : plan.header = header

/-- What the cells of a record come to as a row of any table. -/
def rowOutcome (language : Language) (t : Template) (header : Header) (cells : List String) :
    Except ExpansionError Expansion :=
  outcome language t header (cells.map fun cell => .text (Csv.flattened cell))

/-- The lines of an expansion, if there is one. -/
def outcomeText : Except ExpansionError Expansion → String
  | .ok expansion => NTriples.renderOrNothing expansion.statements
  | .error _ => ""

def rowText (language : Language) (t : Template) (header : Header) (cells : List String) : String :=
  outcomeText (rowOutcome language t header cells)

/-! ### The text of all chunks -/

theorem join_flatten (groups : List (List String)) :
    String.join groups.flatten = String.join (groups.map String.join) := by
  induction groups with
  | nil => rfl
  | cons group groups ih =>
      rw [List.flatten_cons, List.map_cons, String.join_append, String.join_cons, ih]

/-- However the rows are dealt out, the chunks have the lines of all of them. -/
theorem Conversion.Grouping.text_eq {plan : Plan} {c : Conversion} {expansions : List Expansion}
    (g : Grouping plan c expansions) :
    c.text = String.join (expansions.map fun expansion => outcomeText (.ok expansion)) := by
  have each : c.chunks.map Chunk.text = (g.groups.map (List.map fun expansion =>
      outcomeText (.ok expansion))).map String.join := by
    rw [g.chunks_eq_mapIdx]
    refine List.ext_getElem? fun k => ?_
    simp [Function.comp_def, Plan.text_chunk, outcomeText]
  rw [Conversion.text, each, ← join_flatten, ← List.map_flatten, g.flatten_groups]

/-! ### Rows -/

namespace Plan.GoesByContent

variable {plan : Plan} {language : Language} {t : Template} {header : Header}
variable (h : plan.GoesByContent language t header)
include h

theorem expandRow_eq {setting : Setting} (mode : setting.mode = plan.mode)
    (geocoder : setting.geocoder = plan.geocoder) (same : setting.language = plan.language)
    (cells : List String) (progress : Progress) :
    expandRow setting plan.template plan.header
        (cells.map fun cell => .text (Csv.flattened cell)) progress =
      (rowOutcome language t header cells, progress) := by
  rw [expandRow_unplaced (mode.trans h.mode) (geocoder.trans h.geocoder), same, h.language,
    h.template, h.header]
  rfl

/-- Rows that are expanded have the outcomes of their cells. -/
theorem outcomes_eq {place : Nat} {progress last : Progress} {rows : List (Nat × List String)}
    {expansions : List Expansion} (expand : plan.RowsExpand place progress rows expansions last) :
    rows.map (fun row => rowOutcome language t header row.2) = expansions.map .ok := by
  induction expand with
  | nil => rfl
  | @cons place progress _ _ row _ _ _ first rest ih =>
      rw [Plan.expand, h.expandRow_eq rfl rfl rfl] at first
      rw [List.map_cons, List.map_cons, ih, (Prod.mk.inj first).1]

/-- The rows of a table that is converted to the end can be expanded. -/
theorem exists_outcome {progress : Progress} {records : List Csv.Record} {c : Conversion}
    (done : convertRecords plan progress records = (c, none)) :
    ∀ cells ∈ records.filterMap Csv.Record.cells?, ∃ expansion,
      rowOutcome language t header cells = .ok expansion := by
  obtain ⟨expansions, expand, _⟩ := (Conversion.Grouping.start plan progress).run done
  intro cells member
  rw [← snd_numberedRows 0] at member
  obtain ⟨row, listed, rfl⟩ := List.mem_map.mp member
  have outcome : rowOutcome language t header row.2 ∈ expansions.map .ok := by
    rw [← h.outcomes_eq expand]
    exact List.mem_map_of_mem listed
  obtain ⟨expansion, _, same⟩ := List.mem_map.mp outcome
  exact ⟨expansion, same.symm⟩

/-- The text of a table is put together from the lines of its rows. -/
theorem text_eq {progress : Progress} {records : List Csv.Record} {c : Conversion}
    (done : convertRecords plan progress records = (c, none)) :
    c.text = String.join
      ((records.filterMap Csv.Record.cells?).map (rowText language t header)) := by
  obtain ⟨expansions, expand, ⟨g⟩, _⟩ := (Conversion.Grouping.start plan progress).run done
  rw [List.nil_append] at g
  have texts : (records.filterMap Csv.Record.cells?).map (rowText language t header) =
      expansions.map fun expansion => outcomeText (.ok expansion) := by
    calc (records.filterMap Csv.Record.cells?).map (rowText language t header)
      _ = ((numberedRows 0 records).map fun row => rowOutcome language t header row.2).map
          outcomeText := by
        rw [← snd_numberedRows 0, List.map_map, List.map_map]
        rfl
      _ = expansions.map fun expansion => outcomeText (.ok expansion) := by
        rw [h.outcomes_eq expand, List.map_map]
        rfl
  rw [g.text_eq, texts]

/-! ### Success -/

/-- Where every chunk can be created, a row ends the conversion only if it cannot be expanded. -/
theorem write_succeeds_iff (creates : ∀ name, plan.refuses name = false) (c : Conversion)
    (number : Nat) (cells : List String) :
    (c.write plan number cells).2 = none ↔
      ∃ expansion, rowOutcome language t header cells = .ok expansion := by
  have begun : ¬(c.current.isNone && plan.refuses (c.nextChunk plan).name) = true := by
    rw [creates, Bool.and_false]
    exact Bool.false_ne_true
  simp only [Conversion.write]
  rw [if_neg begun, h.expandRow_eq rfl rfl rfl]
  cases rowOutcome language t header cells with
  | ok expansion => simp
  | error cause => simp

/-- The conversion of records comes to its end if and only if all their rows can be expanded. -/
theorem run_succeeds_iff (creates : ∀ name, plan.refuses name = false) (c : Conversion)
    (number : Nat) (records : List Csv.Record) :
    (Conversion.run plan c number records).2 = none ↔
      ∀ cells ∈ records.filterMap Csv.Record.cells?, ∃ expansion,
        rowOutcome language t header cells = .ok expansion := by
  induction records generalizing c number with
  | nil => simp [Conversion.run]
  | cons record records ih =>
      rw [Conversion.run, List.filterMap_cons]
      cases row : record.cells? with
      | none =>
          rw [Conversion.step_of_none row]
          exact ih _ _
      | some cells =>
          have here := h.write_succeeds_iff creates c number cells
          rw [Conversion.step_of_row row, List.forall_mem_cons, ← here]
          split
          next middle written => simp [written, ih]
          next middle error written => simp [written]

end Plan.GoesByContent

/-! ### Two tables -/

/-- Where nothing but content plays a part, records that follow others add the text that they have
on their own, whatever the sizes and names of the chunks and whatever was taken from outside before.
The records that are no rows do not show in the text, nor do the places of the others. And the
conversion of all records comes to its end if those of both parts do, unless a chunk cannot be
created. -/
theorem text_of_records_append (language : Language) (t : Template) (header : Header)
    (first second both : Plan) (progress progress' progress'' : Progress)
    (records records' : List Csv.Record) (c c' : Conversion)
    (byContent : first.GoesByContent language t header)
    (byContent' : second.GoesByContent language t header)
    (byContent'' : both.GoesByContent language t header)
    (done : convertRecords first progress records = (c, none))
    (done' : convertRecords second progress' records' = (c', none)) :
    (∀ d, convertRecords both progress'' (records ++ records') = (d, none) →
      d.text = c.text ++ c'.text) ∧
    (∀ others d, convertRecords both progress'' others = (d, none) →
      others.filterMap Csv.Record.cells? = records.filterMap Csv.Record.cells? →
      d.text = c.text) ∧
    ((∀ name, both.refuses name = false) →
      ∃ d, convertRecords both progress'' (records ++ records') = (d, none)) := by
  refine ⟨?_, ?_, ?_⟩
  · intro d done''
    rw [byContent''.text_eq done'', byContent.text_eq done, byContent'.text_eq done',
      List.filterMap_append, List.map_append, String.join_append]
  · intro others d done'' same
    rw [byContent''.text_eq done'', byContent.text_eq done, same]
  · intro creates
    refine ⟨_, Prod.ext rfl ((byContent''.run_succeeds_iff creates _ 0 _).mpr ?_)⟩
    rw [List.filterMap_append, List.forall_mem_append]
    exact ⟨byContent.exists_outcome done, byContent'.exists_outcome done'⟩

theorem goesByContent_people (stem : String) (chunkSize : Nat) :
    (peoplePlan stem chunkSize).GoesByContent (peoplePlan stem chunkSize).language
      (peoplePlan stem chunkSize).template ⟨["name"]⟩ :=
  ⟨rfl, rfl, rfl, rfl, rfl⟩

theorem text_of_records_append_people :
    ∃ c c' d,
      convertRecords (peoplePlan "a" 0) {} [some ["Ada"], none] = (c, none) ∧
      convertRecords (peoplePlan "b" 2) {} [some ["Bob"], some [" "], some ["Cid"]] = (c', none) ∧
      convertRecords (peoplePlan "people" 3) ⟨7, []⟩
        ([some ["Ada"], none] ++ [some ["Bob"], some [" "], some ["Cid"]]) = (d, none) ∧
      d.text = c.text ++ c'.text := by
  have done : ∃ c, convertRecords (peoplePlan "a" 0) {} [some ["Ada"], none] = (c, none) :=
    ⟨_, Prod.ext rfl (Option.isNone_iff_eq_none.mp (by decide +kernel))⟩
  have done' : ∃ c', convertRecords (peoplePlan "b" 2) {} [some ["Bob"], some [" "], some ["Cid"]] =
      (c', none) :=
    ⟨_, Prod.ext rfl (Option.isNone_iff_eq_none.mp (by decide +kernel))⟩
  obtain ⟨c, done⟩ := done
  obtain ⟨c', done'⟩ := done'
  obtain ⟨append, _, succeeds⟩ := text_of_records_append _ _ _ (peoplePlan "a" 0)
    (peoplePlan "b" 2) (peoplePlan "people" 3) {} {} ⟨7, []⟩ _ _ c c' (goesByContent_people "a" 0)
    (goesByContent_people "b" 2) (goesByContent_people "people" 3) done done'
  obtain ⟨d, done''⟩ := succeeds fun _ => rfl
  exact ⟨c, c', d, done, done', done'', append d done''⟩

end RowTriples
