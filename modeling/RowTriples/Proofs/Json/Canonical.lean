import Mathlib.Data.List.Nodup
import Mathlib.Data.List.Perm.Basic
import RowTriples.Proofs.Json.Delimited
/-!
# What canonical texts identify

The order of an object's fields says nothing, that of an array's items does. Two values are the same
up to order if they can be made the same by reordering fields, at every level. As long as no object
repeats a name, the canonical text tells values apart exactly up to order: sorting by name picks one
order out of all, and the text of the sorted value can be taken apart again.

A value is its own canonical form if and only if the names of its objects are in order already.
-/

namespace RowTriples.Json

/-! ### Values up to the order of fields -/

mutual

/-- The values are the same but for the order of the fields of objects. Numbers are compared by
their texts. -/
inductive SameUpToOrder : Json → Json → Prop
  | null : SameUpToOrder .null .null
  | bool (value : Bool) : SameUpToOrder (.bool value) (.bool value)
  | number {m n : Number} (text : m.chars = n.chars) : SameUpToOrder (.number m) (.number n)
  | string (text : String) : SameUpToOrder (.string text) (.string text)
  | array {xs ys : List Json} (items : SameItems xs ys) : SameUpToOrder (.array xs) (.array ys)
  | object {xs zs ys : List (String × Json)} (fields : SameFields xs zs) (order : zs.Perm ys) :
      SameUpToOrder (.object xs) (.object ys)

inductive SameItems : List Json → List Json → Prop
  | nil : SameItems [] []
  | cons {x y : Json} {xs ys : List Json} (first : SameUpToOrder x y) (others : SameItems xs ys) :
      SameItems (x :: xs) (y :: ys)

/-- The fields have the same names, and the values are the same up to order, each at its place. -/
inductive SameFields : List (String × Json) → List (String × Json) → Prop
  | nil : SameFields [] []
  | cons {name : String} {x y : Json} {xs ys : List (String × Json)} (first : SameUpToOrder x y)
      (others : SameFields xs ys) : SameFields ((name, x) :: xs) ((name, y) :: ys)

end

theorem SameUpToOrder.kind_eq {v w : Json} (same : SameUpToOrder v w) : v.kind = w.kind := by
  cases same <;> rfl

/-! ### The names of objects -/

mutual

/-- The names of every object in the value satisfy a condition. -/
def EveryObject (p : List String → Prop) : Json → Prop
  | .array items => EveryItem p items
  | .object fields => p (Entries.names fields) ∧ EveryField p fields
  | _ => True

def EveryItem (p : List String → Prop) : List Json → Prop
  | [] => True
  | item :: items => EveryObject p item ∧ EveryItem p items

def EveryField (p : List String → Prop) : List (String × Json) → Prop
  | [] => True
  | (_, value) :: fields => EveryObject p value ∧ EveryField p fields

end

theorem everyField_iff {p : List String → Prop} {fields : List (String × Json)} :
    EveryField p fields ↔ ∀ field ∈ fields, EveryObject p field.2 := by
  induction fields with
  | nil => simp [EveryField]
  | cons field fields ih => rw [EveryField, ih, List.forall_mem_cons]

def HasUniqueNames (v : Json) : Prop :=
  v.EveryObject List.Nodup

def IsSorted (v : Json) : Prop :=
  v.EveryObject (List.Pairwise (· ≤ ·))

/-! ### Sorting fields -/

section Sorting

variable {field : String × Json} {fields : List (String × Json)}

theorem perm_insertField (field : String × Json) (fields : List (String × Json)) :
    (insertField field fields).Perm (field :: fields) := by
  induction fields with
  | nil => exact .refl _
  | cons other fields ih =>
      rw [insertField]
      split
      · exact (ih.cons other).trans (.swap field other fields)
      · exact .refl _

theorem sorted_insertField (sorted : (Entries.names fields).Pairwise (· ≤ ·)) :
    (Entries.names (insertField field fields)).Pairwise (· ≤ ·) := by
  induction fields with
  | nil => exact List.pairwise_singleton _ _
  | cons other fields ih =>
      have sorted : (other.1 :: Entries.names fields).Pairwise (· ≤ ·) := sorted
      obtain ⟨least, rest⟩ := List.pairwise_cons.mp sorted
      rw [insertField]
      split
      next before =>
        apply List.pairwise_cons.mpr
        refine ⟨?_, ih rest⟩
        intro name member
        have among : name ∈ field.1 :: Entries.names fields :=
          ((perm_insertField field fields).map Prod.fst).mem_iff.mp member
        rcases List.mem_cons.mp among with rfl | later
        · exact String.not_lt.mp (String.lt_asymm before)
        · exact least name later
      next behind =>
        have first : field.1 ≤ other.1 := String.not_lt.mp behind
        apply List.pairwise_cons.mpr
        refine ⟨?_, sorted⟩
        intro name member
        rcases List.mem_cons.mp member with rfl | member
        · exact first
        · exact String.le_trans first (least name member)

/-- A field whose name is in order stays in front. -/
theorem insertField_of_sorted (sorted : (field.1 :: Entries.names fields).Pairwise (· ≤ ·)) :
    insertField field fields = field :: fields := by
  cases fields with
  | nil => rfl
  | cons other fields =>
      have next : other.1 ∈ Entries.names (other :: fields) := by simp [Entries.names]
      have first : field.1 ≤ other.1 := (List.pairwise_cons.mp sorted).1 other.1 next
      rw [insertField, if_neg (String.not_lt.mpr first)]

/-- The canonical fields are the fields in canonical form, in another order. -/
theorem perm_canonicalFields (fields : List (String × Json)) :
    (canonicalFields fields).Perm (fields.map fun field => (field.1, canonical field.2)) := by
  induction fields with
  | nil => exact .refl _
  | cons field fields ih =>
      obtain ⟨name, value⟩ := field
      exact (perm_insertField _ _).trans (ih.cons _)

theorem sorted_canonicalFields (fields : List (String × Json)) :
    (Entries.names (canonicalFields fields)).Pairwise (· ≤ ·) := by
  induction fields with
  | nil => exact .nil
  | cons field fields ih => exact sorted_insertField ih

end Sorting

/-! ### Values in order -/

mutual

/-- Every canonical form is in order. -/
theorem isSorted_canonical : (v : Json) → (canonical v).IsSorted
  | .null | .bool _ | .number _ | .string _ => trivial
  | .array items => everyItem_canonicalItems items
  | .object fields => ⟨sorted_canonicalFields fields, everyField_canonicalFields fields⟩

theorem everyItem_canonicalItems :
    (items : List Json) → EveryItem (List.Pairwise (· ≤ ·)) (canonicalItems items)
  | [] => trivial
  | item :: items => ⟨isSorted_canonical item, everyItem_canonicalItems items⟩

theorem everyField_canonicalFields :
    (fields : List (String × Json)) → EveryField (List.Pairwise (· ≤ ·)) (canonicalFields fields)
  | [] => trivial
  | (name, value) :: fields => by
      rw [canonicalFields, everyField_iff]
      intro field member
      rcases List.mem_cons.mp ((perm_insertField _ _).mem_iff.mp member) with rfl | member
      · exact isSorted_canonical value
      · exact everyField_iff.mp (everyField_canonicalFields fields) field member

end

mutual

/-- A value in order is its own canonical form. -/
theorem canonical_of_isSorted : (v : Json) → v.IsSorted → canonical v = v
  | .null, _ | .bool _, _ | .number _, _ | .string _, _ => rfl
  | .array items, sorted => congrArg array (canonicalItems_of_sorted items sorted)
  | .object fields, sorted => congrArg object (canonicalFields_of_sorted fields sorted.1 sorted.2)

theorem canonicalItems_of_sorted : (items : List Json) →
    EveryItem (List.Pairwise (· ≤ ·)) items → canonicalItems items = items
  | [], _ => rfl
  | item :: items, sorted => by
      rw [canonicalItems, canonical_of_isSorted item sorted.1,
        canonicalItems_of_sorted items sorted.2]

theorem canonicalFields_of_sorted : (fields : List (String × Json)) →
    (Entries.names fields).Pairwise (· ≤ ·) → EveryField (List.Pairwise (· ≤ ·)) fields →
    canonicalFields fields = fields
  | [], _, _ => rfl
  | (name, value) :: fields, sorted, each => by
      have rest := (List.pairwise_cons.mp sorted).2
      rw [canonicalFields, canonical_of_isSorted value each.1,
        canonicalFields_of_sorted fields rest each.2]
      exact insertField_of_sorted sorted

end

theorem canonical_eq_self_iff {v : Json} : canonical v = v ↔ v.IsSorted := by
  constructor
  · intro same
    rw [← same]
    exact isSorted_canonical v
  · intro sorted
    exact canonical_of_isSorted v sorted

/-! ### Equal texts -/

theorem canonicalItems_eq_map (items : List Json) : canonicalItems items = items.map canonical := by
  induction items with
  | nil => rfl
  | cons item items ih => rw [canonicalItems, ih, List.map_cons]

theorem canonicalText_inj {v w : Json} :
    v.canonicalText = w.canonicalText ↔ v.canonical.chars = w.canonical.chars :=
  String.ofList_inj

theorem chars_array_eq_iff {xs ys : List Json} :
    (array xs).chars = (array ys).chars ↔ xs.map chars = ys.map chars := by
  constructor
  · intro same
    have whole : (array xs).chars ++ [] = (array ys).chars ++ [] := by rw [same]
    exact (array_append_inj whole).1
  · exact chars_array_congr

theorem chars_object_eq_iff {xs ys : List (String × Json)} :
    (object xs).chars = (object ys).chars ↔ fieldTexts xs = fieldTexts ys := by
  constructor
  · intro same
    have whole : (object xs).chars ++ [] = (object ys).chars ++ [] := by rw [same]
    exact (moreFields_append_inj xs ys (moreFields_of_object whole)).1
  · exact chars_object_congr

/-- The canonical texts of the values of fields, under their names. -/
def canonicalTexts (fields : List (String × Json)) : List (String × List Char) :=
  fields.map fun field => (field.1, (canonical field.2).chars)

theorem perm_fieldTexts_canonicalFields (fields : List (String × Json)) :
    (fieldTexts (canonicalFields fields)).Perm (canonicalTexts fields) := by
  have sorted := (perm_canonicalFields fields).map fun field => (field.1, field.2.chars)
  rw [List.map_map] at sorted
  exact sorted

theorem names_fieldTexts (fields : List (String × Json)) :
    (fieldTexts fields).map Prod.fst = Entries.names fields := by
  rw [fieldTexts, List.map_map]
  rfl

/-- Where names are not repeated, there is only one way to put fields in order. -/
theorem fieldTexts_canonicalFields_eq_iff {xs ys : List (String × Json)}
    (unique : (Entries.names xs).Nodup) :
    fieldTexts (canonicalFields xs) = fieldTexts (canonicalFields ys) ↔
      (canonicalTexts xs).Perm (canonicalTexts ys) := by
  have permX := perm_fieldTexts_canonicalFields xs
  have permY := perm_fieldTexts_canonicalFields ys
  constructor
  · intro same
    rw [← same] at permY
    exact permX.symm.trans permY
  · intro perm
    have across := (permX.trans perm).trans permY.symm
    have uniqueTexts : ((fieldTexts (canonicalFields xs)).map Prod.fst).Nodup := by
      have names : (canonicalTexts xs).map Prod.fst = Entries.names xs := by
        rw [canonicalTexts, List.map_map]
        rfl
      rw [(permX.map Prod.fst).nodup_iff, names]
      exact unique
    have sorted (fields : List (String × Json)) :
        (fieldTexts (canonicalFields fields)).Pairwise fun a b => a.1 ≤ b.1 := by
      have names := sorted_canonicalFields fields
      rw [← names_fieldTexts, List.pairwise_map] at names
      exact names
    refine List.Perm.eq_of_pairwise ?_ (sorted xs) (sorted ys) across
    intro a b memberX memberY le ge
    exact List.inj_on_of_nodup_map uniqueTexts memberX (across.mem_iff.mpr memberY)
      (String.le_antisymm le ge)

/-- Fields in another order are the same fields, seen from either side. -/
theorem perm_canonicalTexts_iff {xs ys : List (String × Json)} :
    (canonicalTexts xs).Perm (canonicalTexts ys) ↔
      ∃ zs, canonicalTexts xs = canonicalTexts zs ∧ zs.Perm ys := by
  constructor
  · intro perm
    have lifted : Relation.Comp (· = List.map (fun field => (field.1, (canonical field.2).chars)) ·)
        List.Perm (canonicalTexts xs) ys := by
      rw [List.eq_map_comp_perm]
      exact perm
    exact lifted
  · rintro ⟨zs, same, perm⟩
    rw [same]
    exact perm.map _

theorem kind_canonical (v : Json) : (canonical v).kind = v.kind := by
  cases v <;> rfl

/-- Values of different kinds are told apart by their texts, and they are not the same. -/
theorem chars_canonical_eq_iff_of_kind_ne {v w : Json} (different : v.kind ≠ w.kind) :
    (canonical v).chars = (canonical w).chars ↔ SameUpToOrder v w := by
  constructor
  · intro same
    have whole : (canonical v).chars ++ [] = (canonical w).chars ++ [] := by rw [same]
    have kinds := kind_eq_of_chars whole
    rw [kind_canonical, kind_canonical] at kinds
    exact absurd kinds different
  · intro same
    exact absurd same.kind_eq different

mutual

theorem chars_canonical_eq_iff : (v w : Json) → v.HasUniqueNames → w.HasUniqueNames →
    ((canonical v).chars = (canonical w).chars ↔ SameUpToOrder v w)
  | .null, w, _, _ => by
      cases w with
      | null => exact ⟨fun _ => .null, fun _ => rfl⟩
      | _ => exact chars_canonical_eq_iff_of_kind_ne nofun
  | .bool a, w, _, _ => by
      cases w with
      | bool b =>
          by_cases same : a = b
          · obtain rfl := same
            exact ⟨fun _ => .bool a, fun _ => rfl⟩
          · exact chars_canonical_eq_iff_of_kind_ne fun kinds => same (Kind.bool.inj kinds)
      | _ => exact chars_canonical_eq_iff_of_kind_ne nofun
  | .number m, w, _, _ => by
      cases w with
      | number n => exact ⟨.number, fun (.number text) => text⟩
      | _ => exact chars_canonical_eq_iff_of_kind_ne nofun
  | .string s, w, _, _ => by
      cases w with
      | string t =>
          constructor
          · intro same
            have whole : quoted s ++ [] = quoted t ++ [] := congrArg (· ++ []) same
            obtain ⟨rfl, _⟩ := quoted_append_inj whole
            exact .string s
          · rintro (_ | _)
            rfl
      | _ => exact chars_canonical_eq_iff_of_kind_ne nofun
  | .array xs, w, unique, unique' => by
      cases w with
      | array ys =>
          rw [canonical, canonical, chars_array_eq_iff,
            texts_canonicalItems_eq_iff xs ys unique unique']
          exact ⟨.array, fun (.array items) => items⟩
      | _ => exact chars_canonical_eq_iff_of_kind_ne nofun
  | .object xs, w, unique, unique' => by
      cases w with
      | object ys =>
          have values (zs : List (String × Json)) (perm : zs.Perm ys) :
              canonicalTexts xs = canonicalTexts zs ↔ SameFields xs zs := by
            refine canonicalTexts_eq_iff xs zs unique.2 (everyField_iff.mpr ?_)
            intro field member
            exact everyField_iff.mp unique'.2 field (perm.mem_iff.mp member)
          rw [canonical, canonical, chars_object_eq_iff, fieldTexts_canonicalFields_eq_iff unique.1,
            perm_canonicalTexts_iff]
          constructor
          · rintro ⟨zs, same, perm⟩
            exact .object ((values zs perm).mp same) perm
          · rintro (_ | _ | _ | _ | _ | ⟨fields, perm⟩)
            exact ⟨_, (values _ perm).mpr fields, perm⟩
      | _ => exact chars_canonical_eq_iff_of_kind_ne nofun

theorem texts_canonicalItems_eq_iff : (xs ys : List Json) → EveryItem List.Nodup xs →
    EveryItem List.Nodup ys →
    ((canonicalItems xs).map chars = (canonicalItems ys).map chars ↔ SameItems xs ys)
  | [], [], _, _ => ⟨fun _ => .nil, fun _ => rfl⟩
  | [], _ :: _, _, _ => ⟨nofun, nofun⟩
  | _ :: _, [], _, _ => ⟨nofun, nofun⟩
  | x :: xs, y :: ys, unique, unique' => by
      rw [canonicalItems, canonicalItems, List.map_cons, List.map_cons, List.cons.injEq,
        chars_canonical_eq_iff x y unique.1 unique'.1,
        texts_canonicalItems_eq_iff xs ys unique.2 unique'.2]
      exact ⟨fun ⟨first, others⟩ => .cons first others, fun (.cons first others) => ⟨first, others⟩⟩

theorem canonicalTexts_eq_iff : (xs ys : List (String × Json)) → EveryField List.Nodup xs →
    EveryField List.Nodup ys → (canonicalTexts xs = canonicalTexts ys ↔ SameFields xs ys)
  | [], [], _, _ => ⟨fun _ => .nil, fun _ => rfl⟩
  | [], _ :: _, _, _ => ⟨nofun, nofun⟩
  | _ :: _, [], _, _ => ⟨nofun, nofun⟩
  | (name, x) :: xs, (name', y) :: ys, unique, unique' => by
      have others := canonicalTexts_eq_iff xs ys unique.2 unique'.2
      have first := chars_canonical_eq_iff x y unique.1 unique'.1
      rw [canonicalTexts, canonicalTexts] at others ⊢
      rw [List.map_cons, List.map_cons, List.cons.injEq, Prod.mk.injEq, first, others]
      constructor
      · rintro ⟨⟨rfl, first⟩, others⟩
        exact .cons first others
      · rintro (_ | ⟨first, others⟩)
        exact ⟨⟨rfl, first⟩, others⟩

end

/-- Canonical texts identify values. Two values in which no object repeats a name have the same
canonical text if and only if they are the same up to the order of fields, at every level, where
numbers count as the same if their texts are. The order of items matters: arrays have the same
canonical text if and only if their items have, each at its place. A value is its own canonical form
if and only if the names of all its objects are in order already. -/
theorem canonical_text_identifies_values :
    (∀ v w : Json, v.HasUniqueNames → w.HasUniqueNames →
      (v.canonicalText = w.canonicalText ↔ SameUpToOrder v w)) ∧
    (∀ xs ys : List Json, (array xs).canonicalText = (array ys).canonicalText ↔
      xs.map canonicalText = ys.map canonicalText) ∧
    ∀ v : Json, v.canonical = v ↔ v.IsSorted := by
  refine ⟨?_, ?_, ?_⟩
  · intro v w unique unique'
    rw [canonicalText_inj]
    exact chars_canonical_eq_iff v w unique unique'
  · intro xs ys
    have texts (items : List Json) : items.map canonicalText =
        ((canonicalItems items).map chars).map String.ofList := by
      rw [canonicalItems_eq_map, List.map_map, List.map_map]
      rfl
    rw [canonicalText_inj, canonical, canonical, chars_array_eq_iff, texts, texts]
    exact (List.map_inj_right fun _ _ => String.ofList_inj.mp).symm
  · intro v
    exact canonical_eq_self_iff

/-! ### An object within an object -/

def one : Json :=
  .number (.integer 1 (by decide) (by decide))

/-- An object with the given fields around one with the given fields. -/
def nestedObject (order : List (String × Json) → List (String × Json)) : Json :=
  .object (order [("b", one), ("a", .object (order [("d", .array [one, .null]), ("c", .null)]))])

theorem canonical_text_identifies_values_nested :
    (nestedObject id).HasUniqueNames ∧ (nestedObject List.reverse).HasUniqueNames ∧
    (nestedObject id).canonicalText = (nestedObject List.reverse).canonicalText ∧
    (nestedObject List.reverse).IsSorted ∧
    (nestedObject List.reverse).canonical = nestedObject List.reverse := by
  obtain ⟨identifies, _, sorted_iff⟩ := canonical_text_identifies_values
  have unique : (nestedObject id).HasUniqueNames :=
    ⟨by decide, trivial, ⟨by decide, ⟨trivial, trivial, trivial⟩, trivial, trivial⟩, trivial⟩
  have unique' : (nestedObject List.reverse).HasUniqueNames :=
    ⟨by decide, ⟨by decide, trivial, ⟨trivial, trivial, trivial⟩, trivial⟩, trivial, trivial⟩
  have sameOne : SameUpToOrder one one := .number rfl
  have sameList : SameUpToOrder (.array [one, .null]) (.array [one, .null]) :=
    .array (.cons sameOne (.cons .null .nil))
  have inner : SameUpToOrder (.object [("d", .array [one, .null]), ("c", .null)])
      (.object [("c", .null), ("d", .array [one, .null])]) :=
    .object (.cons sameList (.cons .null .nil)) (.swap _ _ _)
  have outer : SameUpToOrder (nestedObject id) (nestedObject List.reverse) :=
    .object (.cons sameOne (.cons inner .nil)) (.swap _ _ _)
  have sorted : (nestedObject List.reverse).IsSorted :=
    ⟨by decide, ⟨by decide, trivial, ⟨trivial, trivial, trivial⟩, trivial⟩, trivial, trivial⟩
  exact ⟨unique, unique', (identifies _ _ unique unique').mpr outer, sorted,
    (sorted_iff _).mpr sorted⟩

end RowTriples.Json
