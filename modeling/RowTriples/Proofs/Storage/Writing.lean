import RowTriples.Proofs.Text.Words
import RowTriples.Storage.FileTree
/-!
# Writing files in a directory

Writing a file changes what stands at its place and nothing else. The directories stay, so every
path leads where it led before. Two files of one directory have different places if their names are
different ordinary names: names that have no slash in them and stand for no directory.
-/

namespace RowTriples

/-! ### The parts of a path -/

namespace Text

/-- A single character as delimiter leaves the runs between its occurrences. -/
theorem piecesFrom_singleton (d : Char) (cs : List Char) :
    piecesFrom [d] 0 cs = runs (· = d) cs := by
  induction cs with
  | nil => rfl
  | cons c cs ih =>
      rw [piecesFrom, runs]
      by_cases same : c = d
      · subst same
        simp [ih]
      · simp [same, Ne.symm same, ih]

end Text

namespace Path

variable {directory name path : String}

/-- A name that a file of a directory can have. -/
structure IsName (name : String) : Prop where
  whole : '/' ∉ name.toList
  nonempty : name ≠ ""
  noPoint : name ≠ "."
  noPoints : name ≠ ".."

theorem parts_eq (path : String) :
    parts path = (Text.runs (· = '/') path.toList).map String.ofList := by
  have delimiter : "/".toList = ['/'] := by decide
  rw [parts, Text.splitAt, Text.pieces, delimiter, ← Text.piecesFrom_singleton]
  rfl

theorem slash_notMem_of_mem_parts {part : String} (member : part ∈ parts path) :
    '/' ∉ part.toList := by
  rw [parts_eq] at member
  obtain ⟨run, inside, rfl⟩ := List.mem_map.mp member
  rw [String.toList_ofList]
  intro slash
  have cut := Text.not_isSeparator_of_mem_runs inside '/' slash
  simp at cut

theorem runs_of_isName (ordinary : IsName name) :
    Text.runs (· = '/') name.toList = [name.toList] := by
  apply Text.runs_of_forall
  intro c member
  have other : c ≠ '/' := fun same => ordinary.whole (same ▸ member)
  simpa using other

theorem parts_of_slash {before : List Char} (ordinary : IsName name)
    (ends : path.toList = before ++ '/' :: name.toList) :
    ∃ others, parts path = others ++ [name] := by
  refine ⟨(Text.runs (· = '/') before).map String.ofList, ?_⟩
  rw [parts_eq, ends, Text.runs_append_separator (by simp), runs_of_isName ordinary,
    List.map_append, List.map_singleton, String.ofList_toList]

/-- The last part of the path of a file in a directory is its name. -/
theorem parts_join (directory : String) (ordinary : IsName name) :
    ∃ others, parts (join directory name) = others ++ [name] := by
  unfold join
  split
  · refine ⟨[], ?_⟩
    rw [parts_eq, runs_of_isName ordinary, List.map_singleton, String.ofList_toList]
    rfl
  split
  next slash =>
    rw [String.endsWith_eq_endsWith_toSlice, String.Slice.endsWith_string_iff] at slash
    obtain ⟨before, same⟩ := slash
    have ends : (directory ++ name).toList = before ++ '/' :: name.toList := by
      have same : directory.toList = before ++ ['/'] := by simpa using same.symm
      rw [String.toList_append, same, List.append_assoc, List.singleton_append]
    exact parts_of_slash ordinary ends
  next =>
    have ends : (directory ++ "/" ++ name).toList = directory.toList ++ '/' :: name.toList := by
      simp
    exact parts_of_slash ordinary ends

theorem join_injective {other : String} (same : join directory name = join directory other) :
    name = other := by
  unfold join at same
  split at same
  · exact same
  split at same
  · exact (String.append_right_inj _).mp same
  · exact (String.append_right_inj _).mp same

end Path

namespace FileTree

variable {tree : FileTree} {directory name path : String} {place : Place} {content : List UInt8}

theorem follow?_append {parts others : List String} :
    tree.follow? place (parts ++ others) =
      (tree.follow? place parts).bind (tree.follow? · others) := by
  induction parts generalizing place with
  | nil => rfl
  | cons part parts ih =>
      simp only [List.cons_append, follow?, ih]
      split
      · rfl
      split
      · rfl
      split
      · split <;> rfl
      · rfl

/-- The last name of the place of a file in a directory is the name of the file. -/
theorem getLast?_of_place?_join (ordinary : Path.IsName name)
    (leads : tree.place? (Path.join directory name) = some place) : place.getLast? = some name := by
  obtain ⟨others, parts⟩ := Path.parts_join directory ordinary
  unfold place? at leads
  split at leads
  · cases leads
  · rw [parts, follow?_append] at leads
    obtain ⟨middle, _, leads⟩ := Option.bind_eq_some_iff.mp leads
    have entered : ¬(decide (name = "") || decide (name = ".")) = true := by
      simp [ordinary.nonempty, ordinary.noPoint]
    rw [follow?, if_neg entered, if_neg ordinary.noPoints] at leads
    split at leads
    · cases leads
    · obtain rfl := Option.some.inj leads
      exact List.getLast?_concat

/-! ### Writing -/

@[simp] theorem follow?_putAt {start : Place} {parts : List String} :
    (tree.putAt place content).follow? start parts = tree.follow? start parts := by
  induction parts generalizing start with
  | nil => rfl
  | cons part parts ih =>
      rw [follow?, follow?, ih, ih, ih]
      rfl

@[simp] theorem place?_putAt : (tree.putAt place content).place? path = tree.place? path := by
  simp only [place?, follow?_putAt]
  rfl

theorem write?_eq_some_iff {written : FileTree} :
    tree.write? path content = some written ↔ ∃ place, tree.place? path = some place ∧
      tree.isDirectoryAt place = false ∧ written = tree.putAt place content := by
  simp only [write?, Option.bind_eq_bind, Option.bind_eq_some_iff]
  refine exists_congr fun place => and_congr_right fun _ => ?_
  cases tree.isDirectoryAt place <;> simp [eq_comm]

/-- Whether a file can be written depends on where its path leads. -/
theorem isSome_write?_iff : (tree.write? path content).isSome = true ↔
    ∃ place, tree.place? path = some place ∧ tree.isDirectoryAt place = false := by
  rw [Option.isSome_iff_exists]
  simp only [write?_eq_some_iff]
  constructor
  · rintro ⟨_, place, leads, free, _⟩
    exact ⟨place, leads, free⟩
  · rintro ⟨place, leads, free⟩
    exact ⟨_, place, leads, free, rfl⟩

/-- So it depends neither on its content nor on files that were written before. -/
theorem isSome_write?_of_write? {other : String} {content' content'' : List UInt8}
    {written : FileTree}
    (done : tree.write? path content = some written)
    (free : (tree.write? other content').isSome = true) :
    (written.write? other content'').isSome = true := by
  obtain ⟨place, _, _, rfl⟩ := write?_eq_some_iff.mp done
  obtain ⟨place', leads, free⟩ := isSome_write?_iff.mp free
  exact isSome_write?_iff.mpr ⟨place', place?_putAt.trans leads, free⟩

/-- A file that was written has its content. -/
theorem read?_of_write? {written : FileTree} (done : tree.write? path content = some written) :
    written.read? path = some content := by
  obtain ⟨place, leads, _, rfl⟩ := write?_eq_some_iff.mp done
  simp [read?, leads]

/-- A file of another name in the same directory keeps what it has. -/
theorem read?_of_write?_ne {other : String} {written : FileTree} (ordinary : Path.IsName name)
    (ordinary' : Path.IsName other) (different : other ≠ name)
    (done : tree.write? (Path.join directory name) content = some written) :
    written.read? (Path.join directory other) = tree.read? (Path.join directory other) := by
  obtain ⟨place, leads, _, rfl⟩ := write?_eq_some_iff.mp done
  rw [read?, read?, place?_putAt]
  cases leads' : tree.place? (Path.join directory other) with
  | none => rfl
  | some place' =>
      have apart : place' ≠ place := by
        rintro rfl
        have last := getLast?_of_place?_join ordinary leads
        have last' := getLast?_of_place?_join ordinary' leads'
        exact different (Option.some.inj (last'.symm.trans last))
      simp [apart]

end FileTree

end RowTriples
