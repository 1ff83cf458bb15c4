import Mathlib.Algebra.Group.Nat.Defs
import RowTriples.Binding.Catalog
import RowTriples.Binding.Evaluate
import RowTriples.Proofs.Document.OfJson
import RowTriples.Proofs.Text.Pieces
/-!
# Splitting texts

The list of the pieces of a text, one of the pieces and the text with another delimiter all come of
one cut of the text from left to right. Nothing is lost by it, and an index chooses a piece without
any overflow, wherever it is in the range of words.
-/

namespace RowTriples

theorem Row.columnText?_of_text {row : Row} {column text : String}
    (cell : row.get? column = some (.text text)) : row.columnText? column = some text := by
  rw [Row.columnText?, cell]
  rfl

theorem Document.asInt64_ofInt64 (n : Int64) : (ofJson (.number (.ofInt64 n))).asInt64 = .ok n := by
  have lower : -(2 ^ 63 : Int) ≤ n.toInt := n.le_toInt
  have upper : n.toInt < (2 ^ 63 : Int) := n.toInt_lt
  have below : ((Nat.pow 2 63 : Nat) : Int) = 2 ^ 63 := rfl
  have above : ((Nat.pow 2 63 - 1 : Nat) : Int) = 2 ^ 63 - 1 := rfl
  have within : -((Nat.pow 2 63 : Nat) : Int) ≤ n.toInt ∧ n.toInt ≤ (Nat.pow 2 63 - 1 : Nat) := by
    omega
  have read : (Document.number (.ofInt64 n)).asInteger "i64" (Nat.pow 2 63) (Nat.pow 2 63 - 1) =
      .ok n.toInt := if_pos within
  rw [ofJson, asInt64, read]
  exact congrArg Except.ok (Int64.ofInt_toInt n)

namespace Binding

/-- The value for a row of a binding that is declared by a function and its parameters. -/
def declaredValue (row : Row) (name function : String) (parameters : Entries Json) :
    Except BindingError Datum :=
  (ofDeclaration name function (.object parameters)).map (·.evaluate row)

/-! ### The declarations -/

section Declarations

variable (name column delimiter : String)

theorem ofDeclaration_splitColumn :
    ofDeclaration name "SplitColumn"
      (.object [("Column", .string column), ("Delimiter", .string delimiter)]) =
      .ok (.split column delimiter none) := rfl

theorem ofDeclaration_replace (old new : String) :
    ofDeclaration name "Replace"
      (.object [("Column", .string column), ("Key", .string old), ("Value", .string new)]) =
      .ok (.replace column old new) := rfl

theorem ofSplit_decode {binding : SplitParameters → Except ParameterError Binding}
    (index : Int64) :
    (ofSplit name binding).decode (.ofJson (.object [("Column", .string column),
      ("Delimiter", .string delimiter), ("Index", .number (.ofInt64 index))])) =
      binding ⟨column, delimiter, some index⟩ := by
  have read : (Document.ofJson (.number (.ofInt64 index))).asOption Document.asInt64 =
      .ok (some index) :=
    Document.asOption_ofJson_iff.mpr (.inr ⟨nofun, index, Document.asInt64_ofInt64 index, rfl⟩)
  have fields : Document.ofJson (.object [("Column", .string column),
      ("Delimiter", .string delimiter), ("Index", .number (.ofInt64 index))]) =
      .map [("Column", .text column), ("Delimiter", .text delimiter),
        ("Index", .ofJson (.number (.ofInt64 index)))] := rfl
  simp [ofSplit, Function.of, fields, Document.asRecord, Document.content,
    RecordShape.decodeEntries, RecordShape.index?, RecordShape.missing?, List.findIdx?_cons,
    Document.asText, read, bind, Except.bind, pure, Except.pure]

theorem ofDeclaration_splitIndex (index : Int64) :
    ofDeclaration name "SplitIndex" (.object [("Column", .string column),
      ("Delimiter", .string delimiter), ("Index", .number (.ofInt64 index))]) =
      .ok (.split column delimiter (some index)) := by
  obtain ⟨binding, found, chosen⟩ : ∃ binding : SplitParameters → Except ParameterError Binding,
      catalog.find? (fun f => f.name = "SplitIndex") = some (ofSplit "SplitIndex" binding) ∧
      binding ⟨column, delimiter, some index⟩ = .ok (.split column delimiter (some index)) :=
    ⟨_, rfl, rfl⟩
  rw [ofDeclaration, found]
  simp only [ofSplit_decode, chosen]
  rfl

end Declarations

/-! ### Values -/

section Values

variable {row : Row} {column text delimiter : String}

theorem evaluate_split_list (read : row.columnText? column = some text)
    (nonempty : delimiter ≠ "") :
    (split column delimiter none).evaluate row =
      .list ((Text.splitAt delimiter text).map .text) := by
  have given : delimiter.isEmpty = false := by simpa using nonempty
  simp [evaluate, value?, given, read]

theorem evaluate_split_index (read : row.columnText? column = some text)
    (nonempty : delimiter ≠ "") (index : Int64) :
    (split column delimiter (some index)).evaluate row =
      ((pieceAt? index.toInt (Text.splitAt delimiter text)).map Datum.text).getD .null := by
  have given : delimiter.isEmpty = false := by simpa using nonempty
  simp only [evaluate, value?, given, read, Option.bind_eq_bind, Option.bind_some]
  cases pieceAt? index.toInt (Text.splitAt delimiter text) <;> rfl

theorem declaredValue_splitIndex (name : String) (read : row.columnText? column = some text)
    (nonempty : delimiter ≠ "") (index : Int64) :
    declaredValue row name "SplitIndex" [("Column", .string column),
      ("Delimiter", .string delimiter), ("Index", .number (.ofInt64 index))] =
      .ok (((pieceAt? index.toInt (Text.splitAt delimiter text)).map Datum.text).getD .null) := by
  rw [declaredValue, ofDeclaration_splitIndex, Except.map, evaluate_split_index read nonempty]

theorem evaluate_replace (read : row.columnText? column = some text) (nonempty : delimiter ≠ "")
    (new : String) :
    (replace column delimiter new).evaluate row =
      .text (new.intercalate (Text.splitAt delimiter text)) := by
  have given : delimiter.toList ≠ [] := by simpa using nonempty
  have joined : String.ofList (Text.replace delimiter.toList new.toList text.toList) =
      new.intercalate (Text.splitAt delimiter text) := by
    apply String.toList_inj.mp
    simp [Text.replace_eq_intercalate given, Text.splitAt, Function.comp_def]
  simp [evaluate, value?, read, joined]

end Values

/-! ### Indices -/

section Indices

variable {pieces : List String} {index : Int64}

theorem pieceAt?_of_inside {i : Nat} (inside : i < pieces.length)
    (chosen : (i : Int) = index.toInt ∨ (i : Int) = pieces.length + index.toInt) :
    pieceAt? index.toInt pieces = some pieces[i] := by
  have position : (if index.toInt < 0 then pieces.length + index.toInt else index.toInt) = i := by
    split <;> omega
  rw [pieceAt?, position, if_neg (Int.not_lt.mpr (Int.natCast_nonneg i)), Int.toNat_natCast,
    List.getElem?_eq_getElem inside]

theorem pieceAt?_of_outside
    (outside : index.toInt < -pieces.length ∨ pieces.length ≤ index.toInt) :
    pieceAt? index.toInt pieces = none := by
  rw [pieceAt?]
  split_ifs with negative before
  · rfl
  · omega
  · exact List.getElem?_eq_none (by omega)

/-- The position that an index stands for, in the arithmetic of words. -/
def wordPosition (length : Nat) (index : Int64) : Int64 :=
  if index < 0 then Int64.ofNat length + index else index

/-- No position overflows, as long as the number of pieces is a word. -/
theorem toInt_wordPosition {length : Nat} (small : length < 2 ^ 63) (index : Int64) :
    (wordPosition length index).toInt =
      if index.toInt < 0 then length + index.toInt else index.toInt := by
  have lower : -(2 ^ 63 : Int) ≤ index.toInt := index.le_toInt
  have negative_iff : index < 0 ↔ index.toInt < 0 := by
    rw [Int64.lt_iff_toInt_lt, Int64.toInt_zero]
  rw [wordPosition]
  by_cases negative : index.toInt < 0
  · rw [if_pos (negative_iff.mpr negative), if_pos negative, Int64.toInt_add,
      Int64.toInt_ofNat_of_lt small]
    exact Int.bmod_eq_of_le (by omega) (by omega)
  · rw [if_neg (negative_iff.not.mpr negative), if_neg negative]

def wordPieceAt? (index : Int64) (pieces : List String) : Option String :=
  let position := wordPosition pieces.length index
  if position < 0 ∨ Int64.ofNat pieces.length ≤ position then none
  else pieces[position.toInt.toNat]?

/-- The arithmetic of words finds the piece that the index stands for. -/
theorem wordPieceAt?_eq (small : pieces.length < 2 ^ 63) (index : Int64) :
    wordPieceAt? index pieces = pieceAt? index.toInt pieces := by
  have position := toInt_wordPosition small index
  have length : (Int64.ofNat pieces.length).toInt = pieces.length :=
    Int64.toInt_ofNat_of_lt small
  simp only [wordPieceAt?, pieceAt?, Int64.lt_iff_toInt_lt, Int64.le_iff_toInt_le, Int64.toInt_zero,
    length, ← position]
  by_cases negative : (wordPosition pieces.length index).toInt < 0
  · rw [if_pos (.inl negative), if_pos negative]
  rw [if_neg negative]
  split
  next outside =>
    exact (List.getElem?_eq_none (by omega)).symm
  next => rfl

end Indices

end Binding

/-- The functions that split a text agree on its pieces. They are those of the only cut from left to
right: joined with the delimiter they give back the text, none of them holds the delimiter, and the
text with another delimiter is made of the same pieces. An index chooses a piece from either end.
As long as the number of pieces is a word, no index makes the position overflow, and the arithmetic
of words chooses the same piece. -/
theorem splits_agree (row : Row) (name column text delimiter : String)
    (cell : row.get? column = some (.text text)) (nonempty : delimiter ≠ "") :
    ∃ pieces : List String,
      (∀ cut, Text.IsCut delimiter.toList text.toList cut ↔ cut = pieces.map String.toList) ∧
      pieces.length ≤ text.length + 1 ∧
      delimiter.intercalate pieces = text ∧
      (∀ piece ∈ pieces, ¬delimiter.toList <:+: piece.toList) ∧
      Binding.declaredValue row name "SplitColumn"
        [("Column", .string column), ("Delimiter", .string delimiter)] =
          .ok (.list (pieces.map .text)) ∧
      (∀ index : Int64,
        let value := Binding.declaredValue row name "SplitIndex"
          [("Column", .string column), ("Delimiter", .string delimiter),
            ("Index", .number (.ofInt64 index))]
        (∀ (i : Nat) (inside : i < pieces.length),
          (i : Int) = index.toInt ∨ (i : Int) = pieces.length + index.toInt →
            value = .ok (.text pieces[i])) ∧
        (index.toInt < -pieces.length ∨ pieces.length ≤ index.toInt → value = .ok .null) ∧
        (pieces.length < 2 ^ 63 →
          (Binding.wordPosition pieces.length index).toInt =
            (if index.toInt < 0 then pieces.length + index.toInt else index.toInt) ∧
          value = .ok (((Binding.wordPieceAt? index pieces).map Datum.text).getD .null))) ∧
      ∀ new : String,
        Binding.declaredValue row name "Replace"
          [("Column", .string column), ("Key", .string delimiter), ("Value", .string new)] =
            .ok (.text (new.intercalate pieces)) := by
  have read := Row.columnText?_of_text cell
  have given : delimiter.toList ≠ [] := by simpa using nonempty
  have cut : Text.IsCut delimiter.toList text.toList
      ((Text.splitAt delimiter text).map String.toList) := by
    simpa [Text.splitAt, Function.comp_def] using Text.isCut_pieces given text.toList
  refine ⟨Text.splitAt delimiter text, fun pieces => ⟨(·.unique cut), ?_⟩, ?_, ?_, ?_, ?_,
    fun index => ⟨?_, ?_, ?_⟩, fun new => ?_⟩
  · rintro rfl
    exact cut
  · simpa [String.length_toList] using cut.length_le given
  · apply String.toList_inj.mp
    rw [String.toList_intercalate, cut.intercalate_eq]
  · intro piece member
    exact cut.not_infix given _ (List.mem_map_of_mem member)
  · rw [Binding.declaredValue, Binding.ofDeclaration_splitColumn, Except.map,
      Binding.evaluate_split_list read nonempty]
  · intro i inside chosen
    rw [Binding.declaredValue_splitIndex name read nonempty,
      Binding.pieceAt?_of_inside inside chosen]
    rfl
  · intro outside
    rw [Binding.declaredValue_splitIndex name read nonempty, Binding.pieceAt?_of_outside outside]
    rfl
  · intro small
    refine ⟨Binding.toInt_wordPosition small index, ?_⟩
    rw [Binding.declaredValue_splitIndex name read nonempty, Binding.wordPieceAt?_eq small]
  · rw [Binding.declaredValue, Binding.ofDeclaration_replace, Except.map,
      Binding.evaluate_replace read nonempty]

/-- A delimiter that overlaps with itself is found at its first occurrence. -/
theorem splits_agree_overlapping :
    let row : Row := ⟨⟨["cell"]⟩, [.text "baaab"], []⟩
    let value := Binding.declaredValue row "cut"
    row.get? "cell" = some (.text "baaab") ∧ "aa" ≠ "" ∧
    value "SplitColumn" [("Column", .string "cell"), ("Delimiter", .string "aa")] =
      .ok (.list [.text "b", .text "ab"]) ∧
    value "SplitIndex" [("Column", .string "cell"), ("Delimiter", .string "aa"),
      ("Index", .number (.ofInt64 (-1)))] = .ok (.text "ab") ∧
    value "SplitIndex" [("Column", .string "cell"), ("Delimiter", .string "aa"),
      ("Index", .number (.ofInt64 Int64.minValue))] = .ok .null ∧
    value "Replace" [("Column", .string "cell"), ("Key", .string "aa"), ("Value", .string "-")] =
      .ok (.text "b-ab") := by
  intro row value
  have cell : row.get? "cell" = some (.text "baaab") := rfl
  have nonempty : "aa" ≠ "" := by decide
  obtain ⟨pieces, cut_iff, _, _, _, listed, chosen, replaced⟩ :=
    splits_agree row "cut" "cell" "baaab" "aa" cell nonempty
  have cut : [['b'], ['a', 'b']] = pieces.map String.toList :=
    (cut_iff _).mp (Text.isCut_pieces (by decide) "baaab".toList)
  have found : pieces = ["b", "ab"] := by
    apply List.map_injective_iff.mpr (fun _ _ => String.toList_inj.mp)
    exact cut.symm
  subst found
  exact ⟨cell, nonempty, listed, (chosen (-1)).1 1 (by decide) (by decide),
    (chosen Int64.minValue).2.1 (by decide), replaced "-"⟩

end RowTriples
