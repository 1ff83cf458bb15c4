import RowTriples.Conversion.Records
import RowTriples.Proofs.NTriples.Grammar
import RowTriples.Proofs.Storage.Writing
import RowTriples.Proofs.Text.Bytes
/-!
# The chunks of a table

The chunks of a table are numbered from nought, and each of them consists of whole lines, one for
every statement that is counted. Both hold of a conversion at any time: a record is written to the
last chunk or to a new one, whose number is that of the chunks before it, and a row adds the lines
of its statements or nothing.
-/

namespace RowTriples

open NTriples

/-! ### Names -/

namespace Chunk

variable {stem stem' : String} {number number' : Nat}

theorem toList_nameOf (stem : String) (number : Nat) :
    (nameOf stem number).toList =
      stem.toList ++ '_' :: (Nat.toDigits 10 number ++ ['.', 'n', 't']) := by
  simp [nameOf, Nat.toString_eq_repr, Nat.toList_repr]

theorem notMem_toDigits {c : Char} (noDigit : c.isDigit = false) : c ∉ Nat.toDigits 10 number := by
  intro member
  have digit := Nat.isDigit_of_mem_toDigits (by decide) (by decide) member
  rw [noDigit] at digit
  cases digit

/-- The name of a chunk tells the stem and the number: what stands behind the last underscore is the
number. -/
theorem nameOf_injective (same : nameOf stem number = nameOf stem' number') :
    stem = stem' ∧ number = number' := by
  have same := congrArg (fun name : String => name.toList.reverse) same
  simp only [toList_nameOf, List.reverse_append, List.reverse_cons, List.append_assoc,
    List.reverse_nil, List.nil_append, List.cons_append] at same
  have same := (List.cons.inj (List.cons.inj (List.cons.inj same).2).2).2
  have first (number : Nat) : '_' ∉ (Nat.toDigits 10 number).reverse := by
    rw [List.mem_reverse]
    exact notMem_toDigits (by decide)
  obtain ⟨digits, stems⟩ := Text.append_separator_inj (first number) (first number') same
  have digits : Nat.toDigits 10 number = Nat.toDigits 10 number' := List.reverse_injective digits
  refine ⟨String.toList_inj.mp (List.reverse_injective stems), ?_⟩
  rw [← Nat.ofDigitChars_ten_toDigits (n := number), digits, Nat.ofDigitChars_ten_toDigits]

/-- A chunk has a name for a file in a directory if its stem has no slash. -/
theorem isName_nameOf (whole : '/' ∉ stem.toList) (number : Nat) :
    Path.IsName (nameOf stem number) := by
  have underscore : '_' ∈ (nameOf stem number).toList := by
    rw [toList_nameOf]
    simp
  refine ⟨?_, ?_, ?_, ?_⟩
  · rw [toList_nameOf]
    simp only [List.mem_append, List.mem_cons, List.not_mem_nil, or_false, not_or]
    exact ⟨whole, by decide, notMem_toDigits (by decide), by decide⟩
  · intro same
    rw [same] at underscore
    exact absurd underscore (by decide)
  · intro same
    rw [same] at underscore
    exact absurd underscore (by decide)
  · intro same
    rw [same] at underscore
    exact absurd underscore (by decide)

/-! ### Lines -/

/-- The text consists of whole lines, and there are as many of them as statements. -/
def IsWhole (chunk : Chunk) : Prop :=
  ∃ lines : List (List Char), (∀ line ∈ lines, '\n' ∉ line) ∧
    chunk.text.toList = (lines.flatMap fun line => line ++ ['\n']) ∧
    chunk.statements = lines.length

variable {chunk : Chunk}

theorem isWhole_of_empty (name : String) : IsWhole { name } :=
  ⟨[], nofun, rfl, rfl⟩

/-- The text of a row that is written, or of one that is lost, consists of whole lines. -/
theorem exists_lines_of_renderOrNothing (statements : List Statement) :
    ∃ lines : List (List Char), (∀ line ∈ lines, '\n' ∉ line) ∧
      (renderOrNothing statements).toList = (lines.flatMap fun line => line ++ ['\n']) ∧
      (if (renderOrNothing statements).isEmpty then 0 else statements.length) = lines.length := by
  cases rendered : render statements with
  | error cause =>
      have nothing : renderOrNothing statements = "" := by rw [renderOrNothing, rendered]
      rw [nothing]
      exact ⟨[], nofun, rfl, rfl⟩
  | ok text =>
      have everything : renderOrNothing statements = text := by rw [renderOrNothing, rendered]
      obtain ⟨fits, written⟩ := renderFrom_eq_ok_iff.mp rendered
      have lines : text.toList = (statements.map lineOf).flatMap fun line => line ++ ['\n'] := by
        simp [written, toList_line, List.flatMap_map]
      rw [everything]
      refine ⟨statements.map lineOf, ?_, lines, ?_⟩
      · intro line member
        obtain ⟨s, statementMember, rfl⟩ := List.mem_map.mp member
        exact newline_notMem_lineOf (fits s statementMember)
      · rw [List.length_map]
        split
        next none =>
          -- Only an empty list of statements is written as nothing.
          obtain rfl : text = "" := by simpa using none
          cases statements with
          | nil => rfl
          | cons s statements => simp at lines
        next => rfl

theorem IsWhole.add (h : chunk.IsWhole) (expansion : Expansion) :
    (chunk.add expansion).IsWhole := by
  obtain ⟨lines, unbroken, text, count⟩ := h
  obtain ⟨others, unbroken', text', count'⟩ := exists_lines_of_renderOrNothing expansion.statements
  refine ⟨lines ++ others, ?_, ?_, ?_⟩
  · rw [List.forall_mem_append]
    exact ⟨unbroken, unbroken'⟩
  · rw [text_add, String.toList_append, text, text', List.flatMap_append]
  · rw [List.length_append, ← count, ← count']
    rfl

/-- The bytes of a chunk have a line for every statement. -/
theorem IsWhole.length_linesOf (h : chunk.IsWhole) :
    (Text.linesOf Text.newlineByte (Digest.utf8 chunk.text)).length = chunk.statements := by
  obtain ⟨lines, unbroken, text, count⟩ := h
  rw [Text.length_linesOf_utf8 unbroken text, count]

end Chunk

/-! ### Chunks of a conversion -/

/-- The chunks are numbered in their order, their files can be created, and they consist of whole
lines. -/
structure AreSound (plan : Plan) (chunks : List Chunk) : Prop where
  named : chunks.map Chunk.name = (List.range chunks.length).map (Chunk.nameOf plan.stem)
  accepted : ∀ chunk ∈ chunks, plan.refuses chunk.name = false
  whole : ∀ chunk ∈ chunks, chunk.IsWhole

section Sound

variable {plan : Plan} {chunks : List Chunk} {chunk : Chunk} {c : Conversion}

theorem areSound_concat_iff :
    AreSound plan (chunks ++ [chunk]) ↔ AreSound plan chunks ∧
      chunk.name = Chunk.nameOf plan.stem chunks.length ∧ plan.refuses chunk.name = false ∧
      chunk.IsWhole := by
  constructor
  · rintro ⟨named, accepted, whole⟩
    rw [List.forall_mem_append] at accepted whole
    rw [List.length_append, List.length_singleton, List.range_succ, List.map_append,
      List.map_append, List.map_singleton, List.map_singleton] at named
    obtain ⟨before, last⟩ := List.append_inj' named rfl
    exact ⟨⟨before, accepted.1, whole.1⟩, (List.cons.inj last).1,
      accepted.2 chunk (List.mem_singleton_self _), whole.2 chunk (List.mem_singleton_self _)⟩
  · rintro ⟨⟨named, accepted, whole⟩, name, accept, lines⟩
    refine ⟨?_, ?_, ?_⟩
    · rw [List.length_append, List.length_singleton, List.range_succ, List.map_append,
        List.map_append, named, List.map_singleton, List.map_singleton, name]
    · rw [List.forall_mem_append, List.forall_mem_singleton]
      exact ⟨accepted, accept⟩
    · rw [List.forall_mem_append, List.forall_mem_singleton]
      exact ⟨whole, lines⟩

namespace Conversion

theorem chunks_eq (c : Conversion) : c.chunks = c.finished.reverse ++ c.current.toList := by
  unfold chunks
  cases c.current <;> simp

/-- A chunk that has been written to is the last one, finished or not. -/
theorem chunks_close (plan : Plan) (c : Conversion) (chunk : Chunk) :
    (c.close plan chunk).chunks = c.finished.reverse ++ [chunk] := by
  unfold close
  split
  · simp [chunks_eq]
  · simp [chunks_eq]

/-- The chunk that the next row is written to can stand at the end. -/
theorem areSound_nextChunk (h : AreSound plan c.chunks)
    (accepted : ¬(c.current.isNone && plan.refuses (c.nextChunk plan).name) = true) :
    AreSound plan (c.finished.reverse ++ [c.nextChunk plan]) := by
  rw [chunks_eq] at h
  cases current : c.current with
  | some chunk =>
      rw [current] at h
      rw [nextChunk, current]
      exact h
  | none =>
      rw [current, Option.toList_none, List.append_nil] at h
      have next : c.nextChunk plan = { name := Chunk.nameOf plan.stem c.finished.length } := by
        rw [nextChunk, current]
        rfl
      rw [current, next] at accepted
      rw [next]
      refine areSound_concat_iff.mpr ⟨h, ?_, ?_, Chunk.isWhole_of_empty _⟩
      · rw [List.length_reverse]
      · simpa using accepted

/-- Writing a record leaves sound chunks, also where the record cannot be expanded. -/
theorem areSound_write (h : AreSound plan c.chunks) (number : Nat) (cells : List String) :
    AreSound plan (c.write plan number cells).1.chunks := by
  simp only [write]
  split
  next => exact h
  next accepted =>
    have next := areSound_nextChunk h accepted
    obtain ⟨before, name, accept, whole⟩ := areSound_concat_iff.mp next
    split
    next expansion progress _ =>
      rw [chunks_close]
      exact areSound_concat_iff.mpr ⟨before, name, accept, whole.add expansion⟩
    next cause progress _ =>
      rw [chunks_eq]
      exact next

theorem areSound_step (h : AreSound plan c.chunks) (number : Nat) (record : Csv.Record) :
    AreSound plan (c.step plan number record).1.chunks := by
  cases record with
  | none => exact h
  | some cells =>
      rw [step]
      split
      · exact h
      · exact areSound_write h number cells

theorem areSound_run (h : AreSound plan c.chunks) (number : Nat) (records : List Csv.Record) :
    AreSound plan (run plan c number records).1.chunks := by
  induction records generalizing c number with
  | nil => exact h
  | cons record records ih =>
      have stepped := areSound_step h number record
      rw [run]
      split
      next next same =>
        rw [same] at stepped
        exact ih stepped (number + 1)
      next next error same =>
        rw [same] at stepped
        exact stepped

end Conversion

/-- The chunks of a table are sound, also where its conversion ends early. -/
theorem areSound_convertRecords (plan : Plan) (progress : Progress) (records : List Csv.Record) :
    AreSound plan (convertRecords plan progress records).1.chunks := by
  have start : AreSound plan ({ progress } : Conversion).chunks := by
    have none : ({ progress } : Conversion).chunks = [] := rfl
    rw [none]
    exact ⟨rfl, nofun, nofun⟩
  exact Conversion.areSound_run start 0 records

end Sound

end RowTriples
