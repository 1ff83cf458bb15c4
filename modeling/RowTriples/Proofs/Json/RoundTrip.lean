import RowTriples.Binding.Catalog
import RowTriples.Binding.Evaluate
import RowTriples.Proofs.Document.OfJson
/-!
# JSON values as values of a row

A value of a row has integers of the signed 64-bit range and floats, JSON has the unsigned range as
well. So an integer that only the unsigned range holds becomes the nearest float when a JSON value
is turned into a value of a row, at the root and among the items of arrays. Objects are kept as they
are. Nothing else is changed on the way there and back.
-/

namespace RowTriples

namespace Json

/-- The number as a value of a row has it. -/
def Number.narrowed : Number → Json
  | .integer n lower upper =>
    if n < Int.pow 2 63 then .number (.integer n lower upper) else .ofFloat (Float.ofInt n)
  | .decimal x finite => .number (.decimal x finite)

mutual

/-- The value with the nearest float in the place of every integer beyond the signed 64-bit range,
except in objects. -/
def narrowed : Json → Json
  | .number n => n.narrowed
  | .array items => .array (narrowedItems items)
  | .null => .null
  | .bool value => .bool value
  | .string value => .string value
  | .object fields => .object fields

def narrowedItems : List Json → List Json
  | [] => []
  | item :: items => narrowed item :: narrowedItems items

end

mutual

/-- Outside of objects, all integers are in the signed 64-bit range. -/
def IsNarrow : Json → Prop
  | .number (.integer n _ _) => n < Int.pow 2 63
  | .array items => AreNarrow items
  | _ => True

def AreNarrow : List Json → Prop
  | [] => True
  | item :: items => IsNarrow item ∧ AreNarrow items

end

/-- No float stands for an integer. -/
theorem ofFloat_ne_integer (x : Float) (n : Int) (lower : -Int.pow 2 63 ≤ n)
    (upper : n < Int.pow 2 64) : ofFloat x ≠ .number (.integer n lower upper) := by
  unfold ofFloat Number.ofFloat?
  intro same
  split at same
  next found =>
    split at found
    · cases found
      cases same
    · cases found
  next => cases same

theorem Number.narrowed_eq_self_iff (n : Number) :
    n.narrowed = .number n ↔ (Json.number n).IsNarrow := by
  cases n with
  | decimal x finite => exact iff_of_true rfl trivial
  | integer n lower upper =>
      rw [narrowed, IsNarrow]
      split
      next inside => exact iff_of_true rfl inside
      next outside => exact iff_of_false (ofFloat_ne_integer _ _ _ _) outside

mutual

theorem narrowed_eq_self_iff : (v : Json) → (v.narrowed = v ↔ v.IsNarrow)
  | .null | .bool _ | .string _ | .object _ => iff_of_true rfl trivial
  | .number n => n.narrowed_eq_self_iff
  | .array items => by
      rw [narrowed, IsNarrow, array.injEq]
      exact narrowedItems_eq_self_iff items

theorem narrowedItems_eq_self_iff : (items : List Json) →
    (narrowedItems items = items ↔ AreNarrow items)
  | [] => iff_of_true rfl trivial
  | item :: items => by
      rw [narrowedItems, AreNarrow, List.cons.injEq, narrowed_eq_self_iff item,
        narrowedItems_eq_self_iff items]

end

end Json

namespace Datum

theorem toInt_ofInt {n : Int} (lower : -Int.pow 2 63 ≤ n) (inside : n < Int.pow 2 63) :
    (Int64.ofInt n).toInt = n :=
  Int64.toInt_ofInt_of_le lower inside

theorem toJson_ofNumber (n : Json.Number) : (ofNumber n).toJson = n.narrowed := by
  cases n with
  | integer n lower upper =>
      rw [ofNumber, Json.Number.narrowed]
      split
      next inside =>
        rw [toJson, Json.Number.ofInt64]
        simp only [toInt_ofInt lower inside]
      next => rw [toJson]
  | decimal x finite => simp [ofNumber, toJson, Json.ofFloat, Json.Number.ofFloat?, finite,
      Json.Number.narrowed]

mutual

theorem toJson_ofJson : (v : Json) → (ofJson v).toJson = v.narrowed
  | .null | .bool _ | .string _ | .object _ => rfl
  | .number n => toJson_ofNumber n
  | .array items => by rw [ofJson, toJson, Json.narrowed, listToJson_listOfJson items]

theorem listToJson_listOfJson : (items : List Json) →
    listToJson (listOfJson items) = Json.narrowedItems items
  | [] => rfl
  | item :: items => by
      rw [listOfJson, listToJson, Json.narrowedItems, toJson_ofJson item,
        listToJson_listOfJson items]

end

theorem toJson_ofJson_eq_self_iff {v : Json} : (ofJson v).toJson = v ↔ v.IsNarrow := by
  rw [toJson_ofJson, Json.narrowed_eq_self_iff]

end Datum

namespace Binding

@[simp] theorem evaluate_constant (row : Row) (v : Json) :
    (constant v).evaluate row = Datum.ofJson v := rfl

/-- The declaration of a constant is accepted, whatever the value, and keeps it as it is written. -/
theorem ofDeclaration_echo (name : String) {v : Json} (unique : v.HasUniqueNames) :
    ofDeclaration name "Echo" (.object [("Echostring", v)]) = .ok (constant v) := by
  have found : catalog.find? (fun f => f.name = "Echo") = some echo := rfl
  have decoded : echo.decode (.ofJson (.object [("Echostring", v)])) = .ok (constant v) := by
    have read : (Document.ofJson v).asJson = .ok v := Document.asJson_ofJson unique
    have index : RecordShape.index? ⟨"EchoParams", [{ name := "Echostring" }]⟩ "Echostring" =
      some 0 := rfl
    simp only [echo, Function.of, Document.asRecord, Document.ofJson, Document.ofFields,
      Document.content, RecordShape.decodeEntries, index, read]
    rfl
  rw [ofDeclaration, found]
  simp only [decoded]
  rfl

end Binding

/-- JSON values pass through values of a row, except for wide integers. On its way there and back a
value keeps everything but the integers outside of objects that are beyond the signed 64-bit range,
each of which becomes the nearest float. So the value that comes back is the same if and only if
there is no such integer. A declared constant is kept as it is written, and in every row it has the
value that comes of it in this way. -/
theorem json_passes_iff_narrow :
    (∀ v : Json, (Datum.ofJson v).toJson = v.narrowed) ∧
    (∀ v : Json, (Datum.ofJson v).toJson = v ↔ v.IsNarrow) ∧
    ∀ (row : Row) (name : String) (v : Json), v.HasUniqueNames → ∃ binding,
      Binding.ofDeclaration name "Echo" (.object [("Echostring", v)]) = .ok binding ∧
      (binding.evaluate row).toJson = v.narrowed ∧
      ((binding.evaluate row).toJson = v ↔ v.IsNarrow) := by
  refine ⟨Datum.toJson_ofJson, fun _ => Datum.toJson_ofJson_eq_self_iff, ?_⟩
  intro row name v unique
  refine ⟨.constant v, Binding.ofDeclaration_echo name unique, ?_, ?_⟩
  · rw [Binding.evaluate_constant, Datum.toJson_ofJson]
  · rw [Binding.evaluate_constant, Datum.toJson_ofJson_eq_self_iff]

/-! ### The first wide integer -/

/-- The least integer beyond the signed 64-bit range. -/
def firstWide : Json :=
  .number (.integer (Int.pow 2 63) (by decide) (by decide))

/-- In a list the integer is replaced, in an object it is not. -/
theorem json_passes_iff_narrow_firstWide :
    (Json.object [("n", firstWide)]).HasUniqueNames ∧
    (Datum.ofJson (.object [("n", firstWide)])).toJson = .object [("n", firstWide)] ∧
    (Datum.ofJson (.array [.null, firstWide])).toJson =
      .array [.null, .ofFloat (Float.ofInt (Int.pow 2 63))] ∧
    ∀ row : Row, ∃ binding,
      Binding.ofDeclaration "n" "Echo" (.object [("Echostring", .object [("n", firstWide)])]) =
        .ok binding ∧
      (binding.evaluate row).toJson = .object [("n", firstWide)] := by
  obtain ⟨passes, same_iff, declared⟩ := json_passes_iff_narrow
  have unique : (Json.object [("n", firstWide)]).HasUniqueNames := ⟨by decide, trivial, trivial⟩
  refine ⟨unique, (same_iff _).mpr trivial, passes _, fun row => ?_⟩
  obtain ⟨binding, accepted, _, same_iff⟩ := declared row "n" _ unique
  exact ⟨binding, accepted, same_iff.mpr trivial⟩

theorem not_unchanged_firstWide :
    (Datum.ofJson firstWide).toJson ≠ firstWide ∧
    ∀ row : Row, ((Binding.constant firstWide).evaluate row).toJson ≠ firstWide := by
  have wide : ¬firstWide.IsNarrow := Int.lt_irrefl _
  have changed : (Datum.ofJson firstWide).toJson ≠ firstWide :=
    fun same => wide (Datum.toJson_ofJson_eq_self_iff.mp same)
  exact ⟨changed, fun _ => changed⟩

end RowTriples
