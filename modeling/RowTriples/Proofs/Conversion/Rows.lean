import Mathlib.Algebra.GroupWithZero.Nat
import Mathlib.Data.List.Induction
import RowTriples.Proofs.Conversion.Chunks
/-!
# The rows of a table

The records of a table that can be read and are not blank are its rows. A conversion deals them out
in groups of a fixed size, one for each chunk, and only the last group may be smaller. At any time
the finished chunks hold full groups and the current one holds a group that is neither empty nor
full; this is what a written row preserves. The chunk of a row, and with it the name that its
setting has, follows from the place of the row among the rows, and its number is that of its record
among all records.
-/

namespace RowTriples

/-- The cells of a record that becomes a row: one that can be read and has a cell that is not
blank. -/
def Csv.Record.cells? (record : Csv.Record) : Option (List String) :=
  record.filter fun cells => cells.any fun cell => !Text.isBlankText cell

/-- The rows among records, the first of which has the given number, with their numbers. -/
def numberedRows (number : Nat) (records : List Csv.Record) : List (Nat × List String) :=
  (records.zipIdx number).filterMap fun (record, number) => record.cells?.map (number, ·)

namespace Plan

variable (plan : Plan)

/-- The number of rows of a full chunk. A chunk size of nought has the same effect as one of one. -/
def rowsPerChunk : Nat :=
  max plan.chunkSize 1

/-- The chunk with a number that holds the expansions of some rows. -/
def chunk (k : Nat) (expansions : List Expansion) : Chunk :=
  expansions.foldl Chunk.add { name := Chunk.nameOf plan.stem k }

/-- The setting of the row at a place among the rows, counted from nought, whose record has the
given number. -/
def setting (place number : Nat) : Setting :=
  ⟨plan.language, plan.mode, plan.fresh, plan.geocoder,
    Chunk.nameOf plan.stem (place / plan.rowsPerChunk), number⟩

def expand (place : Nat) (row : Nat × List String) (progress : Progress) :
    Except ExpansionError Expansion × Progress :=
  expandRow (plan.setting place row.1) plan.template plan.header
    (row.2.map fun cell => .text (Csv.flattened cell)) progress

/-- Rows, the first of which is at the given place, have the expansions, and each of them goes on
from the progress that the one before it has left. -/
inductive RowsExpand : Nat → Progress → List (Nat × List String) → List Expansion → Progress → Prop
  | nil {place : Nat} {progress : Progress} : RowsExpand place progress [] [] progress
  | cons {place : Nat} {progress next last : Progress} {row : Nat × List String}
      {rows : List (Nat × List String)} {expansion : Expansion} {expansions : List Expansion}
      (first : plan.expand place row progress = (.ok expansion, next))
      (rest : RowsExpand (place + 1) next rows expansions last) :
      RowsExpand place progress (row :: rows) (expansion :: expansions) last

end Plan

/-! ### Records and rows -/

section Records

variable {number : Nat} {record : Csv.Record} {records : List Csv.Record}

theorem numberedRows_cons :
    numberedRows number (record :: records) =
      (record.cells?.map (number, ·)).toList ++ numberedRows (number + 1) records := by
  unfold numberedRows
  rw [List.zipIdx_cons]
  cases row : record.cells? <;> simp [row]

theorem snd_numberedRows (number : Nat) (records : List Csv.Record) :
    (numberedRows number records).map Prod.snd = records.filterMap Csv.Record.cells? := by
  induction records generalizing number with
  | nil => rfl
  | cons record records ih =>
      rw [numberedRows_cons, List.map_append, ih, List.filterMap_cons]
      cases record.cells? <;> rfl

theorem length_numberedRows (number : Nat) (records : List Csv.Record) :
    (numberedRows number records).length = records.countP fun record => record.cells?.isSome := by
  rw [← List.length_map Prod.snd, snd_numberedRows, List.length_filterMap_eq_countP]

theorem Plan.RowsExpand.length {plan : Plan} {place : Nat} {progress last : Progress}
    {rows : List (Nat × List String)} {expansions : List Expansion}
    (h : plan.RowsExpand place progress rows expansions last) :
    expansions.length = rows.length := by
  induction h with
  | nil => rfl
  | cons first rest ih => rw [List.length_cons, List.length_cons, ih]

end Records

/-! ### Chunks of rows -/

namespace Plan

variable {plan : Plan} {k : Nat} {expansions : List Expansion} {expansion : Expansion}

theorem rowsPerChunk_pos : 0 < plan.rowsPerChunk :=
  Nat.lt_of_lt_of_le Nat.one_pos (Nat.le_max_right _ _)

/-- A chunk that has a row is full as soon as it has as many as the chunk size says. -/
theorem chunkSize_le_iff {rows : Nat} (some : 0 < rows) :
    plan.chunkSize ≤ rows ↔ plan.rowsPerChunk ≤ rows := by
  unfold rowsPerChunk
  omega

@[simp] theorem chunk_concat :
    plan.chunk k (expansions ++ [expansion]) = (plan.chunk k expansions).add expansion := by
  simp [chunk]

@[simp] theorem name_chunk : (plan.chunk k expansions).name = Chunk.nameOf plan.stem k := by
  induction expansions using List.reverseRecOn with
  | nil => rfl
  | append_singleton expansions expansion ih => rw [chunk_concat, Chunk.name_add, ih]

@[simp] theorem rows_chunk : (plan.chunk k expansions).rows = expansions.length := by
  induction expansions using List.reverseRecOn with
  | nil => rfl
  | append_singleton expansions expansion ih =>
      rw [chunk_concat, Chunk.rows_add, ih, List.length_append, List.length_singleton]

theorem text_chunk :
    (plan.chunk k expansions).text =
      String.join (expansions.map fun expansion =>
        NTriples.renderOrNothing expansion.statements) := by
  induction expansions using List.reverseRecOn with
  | nil => rfl
  | append_singleton expansions expansion ih =>
      simp [Chunk.text_add, ih, String.join_append, String.join_cons]

theorem diagnostics_chunk :
    (plan.chunk k expansions).diagnostics =
      (expansions.map fun expansion => expansion.diagnostics.length).sum := by
  induction expansions using List.reverseRecOn with
  | nil => rfl
  | append_singleton expansions expansion ih =>
      rw [chunk_concat, List.map_append, List.sum_append, ← ih]
      simp [Chunk.add]

end Plan

/-- The statements of a chunk of whole lines are its line feeds. -/
theorem Chunk.IsWhole.statements_eq {chunk : Chunk} (h : chunk.IsWhole) :
    chunk.statements = chunk.text.toList.count '\n' := by
  obtain ⟨lines, unbroken, text, count⟩ := h
  rw [count, text, Text.count_newline_flatMap unbroken]

/-! ### Groups -/

/-- How the rows written so far are dealt out to chunks. -/
structure Conversion.Grouping (plan : Plan) (c : Conversion) (expansions : List Expansion) where
  /-- The rows of the finished chunks. -/
  filled : List (List Expansion)
  /-- The rows of the current chunk. -/
  begun : List Expansion
  finished : c.finished.reverse = filled.mapIdx plan.chunk
  current : c.current = if begun = [] then none else some (plan.chunk filled.length begun)
  full : ∀ group ∈ filled, group.length = plan.rowsPerChunk
  room : begun.length < plan.rowsPerChunk
  all : filled.flatten ++ begun = expansions

/-- The elements of full groups, by the place at which a group begins. -/
theorem drop_take_flatten {α : Type} {n : Nat} {groups : List (List α)} {rest : List α}
    (full : ∀ group ∈ groups, group.length = n) {k : Nat} {group : List α}
    (found : groups[k]? = some group) :
    ((groups.flatten ++ rest).drop (k * n)).take n = group := by
  induction groups generalizing k with
  | nil => cases found
  | cons first groups ih =>
      rw [List.forall_mem_cons] at full
      cases k with
      | zero =>
          cases found
          simp [← full.1]
      | succ k =>
          have later := ih full.2 (by simpa using found)
          have skip : (k + 1) * n = first.length + k * n := by
            rw [full.1, Nat.succ_mul, Nat.add_comm]
          rw [skip, List.flatten_cons, List.append_assoc, List.drop_length_add_append, later]

theorem length_flatten_of_full {α : Type} {n : Nat} {groups : List (List α)}
    (full : ∀ group ∈ groups, group.length = n) : groups.flatten.length = groups.length * n := by
  induction groups with
  | nil => simp
  | cons first groups ih =>
      rw [List.forall_mem_cons] at full
      rw [List.flatten_cons, List.length_append, ih full.2, full.1, List.length_cons, Nat.succ_mul,
        Nat.add_comm]

namespace Conversion.Grouping

variable {plan : Plan} {c : Conversion} {expansions : List Expansion}

/-- Nothing has been written yet. -/
def start (plan : Plan) (progress : Progress) : Grouping plan { progress } [] where
  filled := []
  begun := []
  finished := rfl
  current := rfl
  full := nofun
  room := plan.rowsPerChunk_pos
  all := rfl

variable (g : Grouping plan c expansions)
include g

theorem length_finished : c.finished.length = g.filled.length := by
  rw [← List.length_reverse, g.finished, List.length_mapIdx]

theorem length_eq : expansions.length = g.filled.length * plan.rowsPerChunk + g.begun.length := by
  calc expansions.length
    _ = (g.filled.flatten ++ g.begun).length := by rw [g.all]
    _ = g.filled.length * plan.rowsPerChunk + g.begun.length := by
      rw [List.length_append, length_flatten_of_full g.full]

/-- The number of the current chunk follows from the number of rows before. -/
theorem div_eq : expansions.length / plan.rowsPerChunk = g.filled.length := by
  rw [g.length_eq, Nat.mul_comm, Nat.mul_add_div plan.rowsPerChunk_pos,
    Nat.div_eq_of_lt g.room, Nat.add_zero]

theorem nextChunk_eq : c.nextChunk plan = plan.chunk g.filled.length g.begun := by
  unfold nextChunk
  rw [g.current, g.length_finished]
  split
  next none =>
    rw [none]
    rfl
  next => rfl

/-- The rows of each chunk, those of the current one included. -/
def groups : List (List Expansion) :=
  g.filled ++ if g.begun = [] then [] else [g.begun]

theorem flatten_groups : g.groups.flatten = expansions := by
  calc g.groups.flatten
    _ = g.filled.flatten ++ g.begun := by
      unfold groups
      split
      next none => rw [none, List.append_nil, List.append_nil]
      next => rw [List.flatten_append, List.flatten_singleton]
    _ = expansions := g.all

theorem chunks_eq_mapIdx : c.chunks = g.groups.mapIdx plan.chunk := by
  rw [chunks_eq, g.finished, g.current, groups]
  split
  · simp
  · rw [List.mapIdx_concat]
    rfl

theorem sum_rows : (c.chunks.map Chunk.rows).sum = expansions.length := by
  have each : c.chunks.map Chunk.rows = g.groups.map List.length := by
    rw [g.chunks_eq_mapIdx]
    refine List.ext_getElem? fun k => ?_
    simp [Function.comp_def]
  calc (c.chunks.map Chunk.rows).sum
    _ = g.groups.flatten.length := by rw [each, List.length_flatten]
    _ = expansions.length := by rw [g.flatten_groups]

omit g in
/-- One more row goes to the group that is begun, which may thereby become full. -/
theorem close (g : Grouping plan c expansions) (expansion : Expansion) (progress : Progress) :
    Nonempty (Grouping plan
      (({ c with progress } : Conversion).close plan
        ((plan.chunk g.filled.length g.begun).add expansion)) (expansions ++ [expansion])) := by
  have enough : plan.chunkSize ≤ ((plan.chunk g.filled.length g.begun).add expansion).rows ↔
      plan.rowsPerChunk ≤ g.begun.length + 1 := by
    rw [Chunk.rows_add, Plan.rows_chunk, Plan.chunkSize_le_iff (Nat.succ_pos _)]
  have room := g.room
  have all : g.filled.flatten ++ (g.begun ++ [expansion]) = expansions ++ [expansion] := by
    rw [← List.append_assoc, g.all]
  unfold Conversion.close
  split
  next full =>
    rw [enough] at full
    refine ⟨⟨g.filled ++ [g.begun ++ [expansion]], [], ?_, rfl, ?_, plan.rowsPerChunk_pos, ?_⟩⟩
    · rw [List.reverse_cons, g.finished, List.mapIdx_concat, Plan.chunk_concat]
    · rw [List.forall_mem_append, List.forall_mem_singleton]
      refine ⟨g.full, ?_⟩
      rw [List.length_append, List.length_singleton]
      omega
    · rw [List.flatten_append, List.flatten_singleton, List.append_nil, all]
  next notFull =>
    rw [enough] at notFull
    refine ⟨⟨g.filled, g.begun ++ [expansion], g.finished, ?_, g.full, ?_, all⟩⟩
    · rw [if_neg (by simp), Plan.chunk_concat]
    · rw [List.length_append, List.length_singleton]
      omega

end Conversion.Grouping

/-! ### Steps and runs -/

namespace Conversion

variable {plan : Plan} {c next : Conversion} {expansions : List Expansion} {number : Nat}

/-- A record that is written is expanded as the row that follows those before it, and goes to their
chunk or to the next one. -/
theorem Grouping.write (g : Grouping plan c expansions) {cells : List String}
    (done : c.write plan number cells = (next, none)) :
    ∃ expansion, plan.expand expansions.length (number, cells) c.progress =
        (.ok expansion, next.progress) ∧
      Nonempty (Grouping plan next (expansions ++ [expansion])) ∧
      next.unreadable = c.unreadable := by
  have same : Conversion.setting plan (plan.chunk g.filled.length g.begun) number =
      plan.setting expansions.length number := by
    rw [Conversion.setting, Plan.setting, g.div_eq, Plan.name_chunk]
  simp only [Conversion.write, g.nextChunk_eq, same] at done
  split at done
  next => cases done
  next =>
    split at done
    next expansion progress expanded =>
      obtain rfl := (Prod.mk.inj done).1
      refine ⟨expansion, ?_, g.close expansion progress, ?_⟩
      · rw [Plan.expand, expanded, Conversion.close]
        split <;> rfl
      · rw [Conversion.close]
        split <;> rfl
    next => cases done

/-- A record whose cells are not all blank is written. -/
theorem step_of_row {record : Csv.Record} {cells : List String}
    (row : record.cells? = some cells) :
    c.step plan number record = c.write plan number cells := by
  obtain ⟨rfl, solid⟩ := Option.filter_eq_some_iff.mp row
  rw [← List.not_all_eq_any_not, Bool.not_eq_true'] at solid
  rw [step, if_neg (by simp [solid])]

/-- Any other record is left out, and counted if it cannot be read. -/
theorem step_of_none {record : Csv.Record} (skipped : record.cells? = none) :
    c.step plan number record =
      ({ c with unreadable := c.unreadable + [record].count none }, none) := by
  cases record with
  | none => rfl
  | some cells =>
      have blank := Option.filter_eq_none_iff.mp skipped cells rfl
      rw [← List.not_all_eq_any_not, Bool.not_eq_true', Bool.not_eq_false] at blank
      rw [step, if_pos blank]
      rfl

/-- By induction on the records: the groups go on from those of the records before. -/
theorem Grouping.run (g : Grouping plan c expansions) {records : List Csv.Record}
    (done : run plan c number records = (next, none)) :
    ∃ more, plan.RowsExpand expansions.length c.progress (numberedRows number records) more
        next.progress ∧
      Nonempty (Grouping plan next (expansions ++ more)) ∧
      next.unreadable = c.unreadable + records.count none := by
  induction records generalizing c expansions number with
  | nil =>
      cases done
      exact ⟨[], .nil, by rw [List.append_nil]; exact ⟨g⟩, rfl⟩
  | cons record records ih =>
      rw [Conversion.run] at done
      rw [numberedRows_cons]
      cases row : record.cells? with
      | none =>
          rw [step_of_none row] at done
          have kept : Grouping plan { c with unreadable := c.unreadable + [record].count none }
              expansions :=
            ⟨g.filled, g.begun, g.finished, g.current, g.full, g.room, g.all⟩
          obtain ⟨more, rest, grouping, unreadable⟩ := ih kept done
          refine ⟨more, rest, grouping, ?_⟩
          rw [unreadable, Nat.add_assoc, ← List.count_append, List.singleton_append]
      | some cells =>
          have readable : record ≠ none := by
            rintro rfl
            cases row
          rw [step_of_row row] at done
          split at done
          next middle written =>
            obtain ⟨expansion, expanded, ⟨g'⟩, same⟩ := g.write written
            obtain ⟨more, rest, grouping, unreadable⟩ := ih g' done
            rw [List.length_append, List.length_singleton] at rest
            rw [List.append_assoc] at grouping
            refine ⟨expansion :: more, .cons expanded rest, grouping, ?_⟩
            rw [unreadable, same, List.count_cons_of_ne readable]
          next => cases done

end Conversion

/-! ### The rows of a table -/

namespace Plan

variable {plan : Plan}

def share (plan : Plan) (k : Nat) (expansions : List Expansion) : List Expansion :=
  (expansions.drop (k * plan.rowsPerChunk)).take plan.rowsPerChunk

end Plan

/-- The chunk is the one with the given number, and it holds the given rows: for each of them the
lines of its statements or, if one of these cannot be written, nothing. -/
structure Chunk.Holds (chunk : Chunk) (plan : Plan) (k : Nat) (share : List Expansion) : Prop where
  name : chunk.name = plan.stem ++ "_" ++ toString k ++ ".nt"
  rows : chunk.rows = share.length
  text : chunk.text =
    String.join (share.map fun expansion => NTriples.renderOrNothing expansion.statements)
  statements : chunk.statements = chunk.text.toList.count '\n'
  diagnostics : chunk.diagnostics =
    (share.map fun expansion => expansion.diagnostics.length).sum

namespace Conversion.Grouping

variable {plan : Plan} {c : Conversion} {expansions : List Expansion}
variable (g : Grouping plan c expansions) {k : Nat}
include g

/-- The group of every chunk is its share of the rows. It is full unless it is the last one. -/
theorem share_eq {group : List Expansion} (found : g.groups[k]? = some group) :
    plan.share k expansions = group ∧ 0 < group.length ∧ group.length ≤ plan.rowsPerChunk ∧
      (k + 1 < g.groups.length → group.length = plan.rowsPerChunk) := by
  have positive := plan.rowsPerChunk_pos
  have room := g.room
  have all : plan.share k expansions =
      ((g.filled.flatten ++ g.begun).drop (k * plan.rowsPerChunk)).take plan.rowsPerChunk := by
    rw [g.all, Plan.share]
  unfold groups at found ⊢
  rw [all]
  rcases Nat.lt_or_ge k g.filled.length with inside | beyond
  · rw [List.getElem?_append_left inside] at found
    have full := g.full group (List.mem_of_getElem? found)
    exact ⟨drop_take_flatten g.full found, by omega, by omega, fun _ => full⟩
  · rw [List.getElem?_append_right beyond] at found
    split at found
    next => cases found
    next some =>
      rw [List.getElem?_singleton, Option.ite_none_right_eq_some] at found
      obtain ⟨last, same⟩ := found
      obtain rfl := Option.some.inj same
      have whole : k * plan.rowsPerChunk = g.filled.flatten.length := by
        rw [length_flatten_of_full g.full, Nat.le_antisymm (Nat.le_of_sub_eq_zero last) beyond]
      refine ⟨?_, List.length_pos_iff.mpr some, by omega, ?_⟩
      · rw [whole, List.drop_left, List.take_of_length_le (by omega)]
      · rw [if_neg some, List.length_append, List.length_singleton]
        omega

end Conversion.Grouping

/-- Every record of a table that is converted to the end is accounted for. Those that cannot be read
are counted. Those that are blank are left out. The others are the rows, which are expanded in their
order and dealt out to chunks numbered from nought: all chunks but the last are full, and none is
empty. -/
theorem rows_are_accounted_for (plan : Plan) (progress : Progress) (records : List Csv.Record)
    (c : Conversion) (done : convertRecords plan progress records = (c, none)) :
    ∃ expansions,
      plan.RowsExpand 0 progress (numberedRows 0 records) expansions c.progress ∧
      c.unreadable = records.count none ∧
      (c.chunks.map Chunk.rows).sum = (records.countP fun record => record.cells?.isSome) ∧
      ∀ k chunk, c.chunks[k]? = some chunk →
        chunk.Holds plan k (plan.share k expansions) ∧
        0 < chunk.rows ∧ chunk.rows ≤ plan.rowsPerChunk ∧
        (k + 1 < c.chunks.length → chunk.rows = plan.rowsPerChunk) := by
  obtain ⟨expansions, expand, ⟨g⟩, unreadable⟩ := (Conversion.Grouping.start plan progress).run done
  rw [List.nil_append] at g
  refine ⟨expansions, expand, unreadable.trans (Nat.zero_add _), ?_, ?_⟩
  · rw [← length_numberedRows 0, ← expand.length, g.sum_rows]
  · intro k chunk found
    have whole := (areSound_convertRecords plan progress records).whole
    rw [done] at whole
    have lines := (whole chunk (List.mem_of_getElem? found)).statements_eq
    rw [g.chunks_eq_mapIdx, List.getElem?_mapIdx] at found
    obtain ⟨group, here, rfl⟩ := Option.map_eq_some_iff.mp found
    obtain ⟨same, some, few, full⟩ := g.share_eq here
    rw [Plan.rows_chunk, same]
    refine ⟨⟨Plan.name_chunk, Plan.rows_chunk, Plan.text_chunk, lines, Plan.diagnostics_chunk⟩,
      some, few, fun more => full ?_⟩
    rwa [g.chunks_eq_mapIdx, List.length_mapIdx] at more

/-- Persons by their names, written in chunks of the given size. -/
def peoplePlan (stem : String) (chunkSize : Nat) : Plan where
  language := ⟨.empty, .of defaultNamespace⟩
  mode := .global
  fresh := toString
  template := ⟨[⟨"Person", "person", [⟨.type, []⟩, ⟨.column "name", ["name"]⟩]⟩], [], [], {}⟩
  header := ⟨["name"]⟩
  stem
  chunkSize

/-- Three names, with a blank record and one that cannot be read among them. -/
def peopleRecords : List Csv.Record :=
  [some ["Ada"], none, some ["Bob"], some [" "], some ["Cid"]]

theorem rows_are_accounted_for_people :
    ∃ c, convertRecords (peoplePlan "people" 2) {} peopleRecords = (c, none) ∧
      c.unreadable = 1 ∧ c.chunks.map Chunk.rows = [2, 1] ∧
      ∃ expansions, ∀ k (chunk : Chunk), c.chunks[k]? = some chunk →
        chunk.Holds (peoplePlan "people" 2) k ((peoplePlan "people" 2).share k expansions) := by
  have done : ∃ c, convertRecords (peoplePlan "people" 2) {} peopleRecords = (c, none) ∧
      c.chunks.map Chunk.rows = [2, 1] :=
    ⟨_, Prod.ext rfl (Option.isNone_iff_eq_none.mp (by decide +kernel)), by decide +kernel⟩
  obtain ⟨c, done, rows⟩ := done
  obtain ⟨expansions, _, unreadable, _, chunks⟩ := rows_are_accounted_for _ {} peopleRecords c done
  exact ⟨c, done, unreadable, rows, expansions, fun k chunk found => (chunks k chunk found).1⟩

end RowTriples
