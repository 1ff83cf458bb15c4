import Mathlib.Data.List.Basic
import RowTriples.Digest.Content
import RowTriples.Proofs.Text.Lines
/-!
# The bytes of lines

No character but the line break has the byte of a line break in its encoding. So a text and its
bytes break into lines at the same places.
-/

namespace RowTriples.Text

def newlineByte : UInt8 := 0x0a

/-- The bytes of an array behind a position follow those that have been collected. -/
theorem toList_loop_eq (bytes : ByteArray) (i : Nat) (collected : List UInt8) :
    ByteArray.toList.loop bytes i collected =
      collected.reverse ++ bytes.data.toList.drop i := by
  induction i, collected using ByteArray.toList.loop.induct bytes with
  | case1 i collected inside ih =>
      have bound : i < bytes.data.toList.length := by
        rw [Array.length_toList]
        exact inside
      have next : bytes.data.toList[i] = bytes.get! i := by
        rw [Array.getElem_toList]
        exact (getElem!_pos bytes.data i inside).symm
      rw [ByteArray.toList.loop.eq_def, if_pos inside, ih, List.drop_eq_getElem_cons bound, next,
        List.reverse_cons, List.append_assoc, List.singleton_append]
  | case2 i collected past =>
      have none : bytes.data.toList.drop i = [] := by
        apply List.drop_eq_nil_of_le
        rw [Array.length_toList]
        exact Nat.le_of_not_lt past
      rw [ByteArray.toList.loop.eq_def, if_neg past, none, List.append_nil]

theorem utf8_eq_toList_data (text : String) : Digest.utf8 text = text.toByteArray.data.toList := by
  rw [Digest.utf8, ByteArray.toList, toList_loop_eq]
  rfl

/-- The bytes of a text are those of its characters. -/
theorem utf8_eq_flatMap (text : String) :
    Digest.utf8 text = text.toList.flatMap String.utf8EncodeChar := by
  rw [utf8_eq_toList_data, ← String.utf8Encode_toList, List.utf8Encode,
    List.toList_data_toByteArray]

/-- Different texts have different bytes. -/
theorem utf8_injective {text other : String} (same : Digest.utf8 text = Digest.utf8 other) :
    text = other := by
  rw [utf8_eq_toList_data, utf8_eq_toList_data] at same
  apply String.toByteArray_inj.mp
  exact ByteArray.ext (Array.toList_inj.mp same)

/-- A text is read back from its bytes. -/
theorem fromUTF8?_utf8 (text : String) :
    String.fromUTF8? ⟨(Digest.utf8 text).toArray⟩ = some text := by
  have bytes : (⟨(Digest.utf8 text).toArray⟩ : ByteArray) = text.toByteArray := by
    apply ByteArray.ext
    rw [utf8_eq_toList_data]
  rw [bytes, String.fromUTF8?, dif_pos text.isValidUTF8]
  rfl

theorem eq_newline_of_mem_utf8EncodeChar {c : Char}
    (member : newlineByte ∈ String.utf8EncodeChar c) : c = '\n' := by
  have code : c.val.toNat = 10 := by
    rw [String.utf8EncodeChar.eq_def] at member
    have value (n : Nat) : newlineByte = UInt8.ofNat n ↔ n % 256 = 10 := by
      rw [← UInt8.toNat_inj, UInt8.toNat_ofNat', eq_comm]
      rfl
    dsimp only at member
    split at member
    · simp only [List.mem_singleton, value] at member
      omega
    split at member
    · simp only [List.mem_cons, List.not_mem_nil, or_false, value] at member
      omega
    split at member
    · simp only [List.mem_cons, List.not_mem_nil, or_false, value] at member
      omega
    · simp only [List.mem_cons, List.not_mem_nil, or_false, value] at member
      omega
  exact Char.ext (UInt32.toNat_inj.mp code)

/-- The bytes of a text that consists of whole lines have as many lines. -/
theorem length_linesOf_utf8 {text : String} {lines : List (List Char)}
    (unbroken : ∀ line ∈ lines, '\n' ∉ line)
    (whole : text.toList = lines.flatMap fun line => line ++ ['\n']) :
    (linesOf newlineByte (Digest.utf8 text)).length = lines.length := by
  have bytes : Digest.utf8 text =
      (lines.map (List.flatMap String.utf8EncodeChar)).flatMap
        fun line => line ++ [newlineByte] := by
    have ends : String.utf8EncodeChar '\n' = [newlineByte] := by decide
    rw [utf8_eq_flatMap, whole, List.flatMap_assoc, List.flatMap_map]
    simp [ends]
  have apart : ∀ line ∈ lines.map (List.flatMap String.utf8EncodeChar), newlineByte ∉ line := by
    intro line member inside
    obtain ⟨characters, lineMember, rfl⟩ := List.mem_map.mp member
    obtain ⟨c, character, inside⟩ := List.mem_flatMap.mp inside
    obtain rfl := eq_newline_of_mem_utf8EncodeChar inside
    exact unbroken characters lineMember character
  rw [bytes, linesOf_flatMap apart, List.length_map]

end RowTriples.Text
