import RowTriples.Json.Canonical
import RowTriples.Proofs.Decimal.Numeric
/-!
# Where a JSON text ends

Compact JSON text marks its own end. The first character tells the kind of a value. A string ends at
the first quotation mark that is not escaped, arrays and objects end at their brackets, and a
number, which has no mark of its own, ends where a comma or a bracket follows it. So the text of a
value can be told from what stands behind it, and the text of an array can be taken apart into the
texts of its items.

The statements are about texts: two numbers with the same text count as the same.
-/

namespace RowTriples.Json

/-! ### Strings -/

/-- The letters behind a backslash, with the characters that they stand for. -/
def letters : List (Char × Char) :=
  [('"', '"'), ('\\', '\\'), ('n', '\n'), ('r', '\r'), ('t', '\t'), ('b', '\x08'), ('f', '\x0c')]

/-- A character stands for itself, or it is written by its letter or by its number. -/
theorem escaped_cases (c : Char) :
    (escaped c = [c] ∧ c ≠ '"' ∧ c ≠ '\\') ∨
    (∃ letter, (letter, c) ∈ letters ∧ escaped c = ['\\', letter]) ∨
    (c.toNat < 0x20 ∧ escaped c = '\\' :: 'u' :: hexDigits 4 c.toNat) := by
  by_cases lettered : ∃ letter, (letter, c) ∈ letters
  · obtain ⟨letter, known⟩ := lettered
    have each : ∀ p ∈ letters, escaped p.2 = ['\\', p.1] := by decide
    exact .inr (.inl ⟨letter, known, each _ known⟩)
  · simp only [letters, List.mem_cons, Prod.mk.injEq, List.not_mem_nil, or_false, not_exists,
      not_or, not_and] at lettered
    have plain := fun letter => lettered letter
    unfold escaped
    simp only [(plain '"').1 rfl, (plain '\\').2.1 rfl, (plain 'n').2.2.1 rfl,
      (plain 'r').2.2.2.1 rfl, (plain 't').2.2.2.2.1 rfl, (plain 'b').2.2.2.2.2.1 rfl,
      (plain 'f').2.2.2.2.2.2 rfl, if_false]
    by_cases control : c.toNat < 0x20
    · exact .inr (.inr ⟨control, if_pos control⟩)
    · exact .inl ⟨if_neg control, (plain '"').1 rfl, (plain '\\').2.1 rfl⟩

theorem length_hexDigits {n : Nat} (control : n < 0x20) : (hexDigits 4 n).length = 4 := by
  have each : ∀ n < 0x20, (hexDigits 4 n).length = 4 := by decide
  exact each n control

theorem hexDigits_inj {m n : Nat} (control : m < 0x20) (control' : n < 0x20)
    (same : hexDigits 4 m = hexDigits 4 n) : m = n := by
  have each : ∀ m < 0x20, ∀ n < 0x20, hexDigits 4 m = hexDigits 4 n → m = n := by decide
  exact each m control n control' same

/-- A written character can be told from what follows it. -/
theorem escaped_append_inj {c d : Char} {rest rest' : List Char}
    (same : escaped c ++ rest = escaped d ++ rest') : c = d ∧ rest = rest' := by
  have unique : ∀ p ∈ letters, ∀ q ∈ letters, p.1 = q.1 → p.2 = q.2 := by decide
  have others : ∀ p ∈ letters, p.1 ≠ 'u' := by decide
  rcases escaped_cases c with ⟨hc, _, plain⟩ | ⟨letter, known, hc⟩ | ⟨control, hc⟩ <;>
    rcases escaped_cases d with ⟨hd, _, plain'⟩ | ⟨letter', known', hd⟩ | ⟨control', hd⟩ <;>
    rw [hc, hd] at same
  case inl.inl => exact List.cons.inj same
  case inl.inr.inl => exact absurd (List.cons.inj same).1 plain
  case inl.inr.inr => exact absurd (List.cons.inj same).1 plain
  case inr.inl.inl => exact absurd (List.cons.inj same).1.symm plain'
  case inr.inr.inl => exact absurd (List.cons.inj same).1.symm plain'
  case inr.inl.inr.inl =>
    obtain ⟨sameLetter, sameRest⟩ := List.cons.inj (List.cons.inj same).2
    exact ⟨unique _ known _ known' sameLetter, sameRest⟩
  case inr.inl.inr.inr =>
    exact absurd (List.cons.inj (List.cons.inj same).2).1 (others _ known)
  case inr.inr.inr.inl =>
    exact absurd (List.cons.inj (List.cons.inj same).2).1.symm (others _ known')
  case inr.inr.inr.inr =>
    have tail := (List.cons.inj (List.cons.inj same).2).2
    obtain ⟨sameDigits, sameRest⟩ := List.append_inj tail
      ((length_hexDigits control).trans (length_hexDigits control').symm)
    exact ⟨Char.toNat_inj.mp (hexDigits_inj control control' sameDigits), sameRest⟩

/-- No written character begins like the end of a string. -/
theorem escaped_append_ne_quote {c : Char} {rest rest' : List Char} :
    escaped c ++ rest ≠ '"' :: rest' := by
  intro same
  rcases escaped_cases c with ⟨hc, plain, _⟩ | ⟨letter, _, hc⟩ | ⟨_, hc⟩ <;> rw [hc] at same
  · exact plain (List.cons.inj same).1
  · exact absurd (List.cons.inj same).1 (by decide)
  · exact absurd (List.cons.inj same).1 (by decide)

theorem flatMap_escaped_append_inj {cs ds rest rest' : List Char}
    (same : cs.flatMap escaped ++ '"' :: rest = ds.flatMap escaped ++ '"' :: rest') :
    cs = ds ∧ rest = rest' := by
  induction cs generalizing ds with
  | nil =>
      cases ds with
      | nil => exact ⟨rfl, (List.cons.inj same).2⟩
      | cons d ds =>
          rw [List.flatMap_cons, List.append_assoc] at same
          exact absurd same.symm escaped_append_ne_quote
  | cons c cs ih =>
      rw [List.flatMap_cons, List.append_assoc] at same
      cases ds with
      | nil => exact absurd same escaped_append_ne_quote
      | cons d ds =>
          rw [List.flatMap_cons, List.append_assoc] at same
          obtain ⟨rfl, tail⟩ := escaped_append_inj same
          obtain ⟨rfl, sameRest⟩ := ih tail
          exact ⟨rfl, sameRest⟩

/-- A string can be read off its quoted form, whatever follows it. -/
theorem quoted_append_inj {s t : String} {rest rest' : List Char}
    (same : quoted s ++ rest = quoted t ++ rest') : s = t ∧ rest = rest' := by
  simp only [quoted, List.cons_append, List.append_assoc, List.nil_append] at same
  obtain ⟨sameText, sameRest⟩ := flatMap_escaped_append_inj (List.cons.inj same).2
  exact ⟨String.toList_inj.mp sameText, sameRest⟩

/-! ### First characters -/

/-- The kinds of values that the first character of a text tells apart. -/
inductive Kind where
  | null
  | bool (value : Bool)
  | number
  | string
  | array
  | object
  deriving DecidableEq

def kind : Json → Kind
  | .null => .null
  | .bool value => .bool value
  | .number _ => .number
  | .string _ => .string
  | .array _ => .array
  | .object _ => .object

def Kind.ofChar? (c : Char) : Option Kind :=
  if c = 'n' then some .null
  else if c = 't' then some (.bool true)
  else if c = 'f' then some (.bool false)
  else if c = '"' then some .string
  else if c = '[' then some .array
  else if c = '\x7b' then some .object
  else if Decimal.isNumeric c then some .number
  else none

theorem Kind.ofChar?_of_isNumeric {c : Char} (numeric : Decimal.isNumeric c = true) :
    ofChar? c = some .number := by
  have marks : ∀ d ∈ ['n', 't', 'f', '"', '[', '\x7b'], Decimal.isNumeric d = false := by
    simp [Decimal.isNumeric]
  have other : ∀ d ∈ ['n', 't', 'f', '"', '[', '\x7b'], c ≠ d := by
    rintro d member rfl
    exact absurd numeric (by simp [marks c member])
  simp only [List.forall_mem_cons] at other
  simp [ofChar?, other, numeric]

theorem exists_chars_eq_cons (v : Json) :
    ∃ c cs, v.chars = c :: cs ∧ Kind.ofChar? c = some v.kind := by
  cases v with
  | null => exact ⟨_, _, rfl, rfl⟩
  | bool value => cases value <;> exact ⟨_, _, rfl, rfl⟩
  | number n =>
      obtain ⟨c, cs, eq⟩ := List.exists_cons_of_ne_nil n.chars_ne_nil
      refine ⟨c, cs, by rw [chars, eq], Kind.ofChar?_of_isNumeric (n.isNumeric_chars c ?_)⟩
      simp [eq]
  | string text => exact ⟨_, _, rfl, rfl⟩
  | array items => cases items <;> exact ⟨_, _, rfl, rfl⟩
  | object fields =>
      rcases fields with _ | ⟨⟨name, value⟩, fields⟩ <;> exact ⟨_, _, rfl, rfl⟩

/-- Values whose texts begin alike are of one kind. -/
theorem kind_eq_of_chars {v w : Json} {rest rest' : List Char}
    (same : v.chars ++ rest = w.chars ++ rest') : v.kind = w.kind := by
  obtain ⟨c, cs, hv, kindV⟩ := exists_chars_eq_cons v
  obtain ⟨d, ds, hw, kindW⟩ := exists_chars_eq_cons w
  rw [hv, hw] at same
  rw [(List.cons.inj same).1, kindW] at kindV
  exact (Option.some.inj kindV).symm

/-- No value begins like the end of an array. -/
theorem chars_append_ne_bracket {v : Json} {rest rest' : List Char} :
    v.chars ++ rest ≠ ']' :: rest' := by
  obtain ⟨c, cs, hv, kindV⟩ := exists_chars_eq_cons v
  intro same
  rw [hv] at same
  rw [(List.cons.inj same).1] at kindV
  exact absurd kindV (by simp [Kind.ofChar?, Decimal.isNumeric])

/-! ### Values -/

/-- What may follow a value inside another one: a comma or a closing bracket. -/
def Closes (rest : List Char) : Prop :=
  ∃ c ∈ [',', ']', '\x7d'], rest.head? = some c

theorem closes_moreItems (items : List Json) (rest : List Char) :
    Closes (moreItems items ++ rest) := by
  cases items with
  | nil => exact ⟨']', by decide, rfl⟩
  | cons item items => exact ⟨',', by decide, rfl⟩

theorem closes_moreFields (fields : List (String × Json)) (rest : List Char) :
    Closes (moreFields fields ++ rest) := by
  rcases fields with _ | ⟨⟨name, value⟩, fields⟩
  · exact ⟨'\x7d', by decide, rfl⟩
  · exact ⟨',', by decide, rfl⟩

/-- The characters of a number are those up to the mark that follows it. -/
theorem Number.takeWhile_chars (n : Number) {rest : List Char} (closes : Closes rest) :
    (n.chars ++ rest).takeWhile Decimal.isNumeric = n.chars := by
  obtain ⟨c, mark, head⟩ := closes
  have marks : ∀ d ∈ [',', ']', '\x7d'], Decimal.isNumeric d = false := by
    simp [Decimal.isNumeric]
  obtain ⟨others, rfl⟩ := List.head?_eq_some_iff.mp head
  rw [List.takeWhile_append_of_pos n.isNumeric_chars, List.takeWhile_cons,
    if_neg (by simp [marks c mark]), List.append_nil]

theorem Number.chars_append_inj {m n : Number} {rest rest' : List Char} (closes : Closes rest)
    (closes' : Closes rest') (same : m.chars ++ rest = n.chars ++ rest') :
    m.chars = n.chars ∧ rest = rest' := by
  have sameChars : m.chars = n.chars := by
    rw [← m.takeWhile_chars closes, same, n.takeWhile_chars closes']
  rw [sameChars] at same
  exact ⟨sameChars, List.append_cancel_left same⟩

/-- The text behind the first item of an array depends on the texts of the other items. -/
theorem moreItems_eq (items : List Json) :
    moreItems items = (items.map chars).flatMap (',' :: ·) ++ [']'] := by
  induction items with
  | nil => rfl
  | cons item items ih => simp [moreItems, ih]

def fieldTexts (fields : List (String × Json)) : List (String × List Char) :=
  fields.map fun field => (field.1, field.2.chars)

theorem moreFields_eq (fields : List (String × Json)) :
    moreFields fields = (fieldTexts fields).flatMap
      (fun field => ',' :: quoted field.1 ++ ':' :: field.2) ++ ['\x7d'] := by
  induction fields with
  | nil => rfl
  | cons field fields ih =>
      obtain ⟨name, value⟩ := field
      simp [moreFields, fieldTexts, ih]

/-- Arrays with the same texts of items have the same text. -/
theorem chars_array_congr {xs ys : List Json} (same : xs.map chars = ys.map chars) :
    (array xs).chars = (array ys).chars := by
  cases xs with
  | nil =>
      obtain rfl := List.map_eq_nil_iff.mp same.symm
      rfl
  | cons x xs =>
      cases ys with
      | nil => cases same
      | cons y ys =>
          obtain ⟨first, others⟩ := List.cons.inj same
          rw [chars, chars, first, moreItems_eq, moreItems_eq, others]

/-- Objects with the same texts of fields have the same text. -/
theorem chars_object_congr {xs ys : List (String × Json)} (same : fieldTexts xs = fieldTexts ys) :
    (object xs).chars = (object ys).chars := by
  rcases xs with _ | ⟨⟨name, value⟩, xs⟩
  · obtain rfl := List.map_eq_nil_iff.mp same.symm
    rfl
  · rcases ys with _ | ⟨⟨name', value'⟩, ys⟩
    · cases same
    · obtain ⟨first, others⟩ := List.cons.inj same
      obtain ⟨rfl, sameValue⟩ := Prod.mk.inj first
      have others : fieldTexts xs = fieldTexts ys := others
      rw [chars, chars, sameValue, moreFields_eq, moreFields_eq, others]

/-- Behind the first character the text of an array is the text of its items, as behind a comma. -/
theorem moreItems_of_array {xs ys : List Json} {rest rest' : List Char}
    (same : (array xs).chars ++ rest = (array ys).chars ++ rest') :
    moreItems xs ++ rest = moreItems ys ++ rest' := by
  cases xs with
  | nil =>
      cases ys with
      | nil => exact (List.cons.inj same).2
      | cons y ys =>
          simp only [chars, List.cons_append, List.append_assoc] at same
          exact absurd (List.cons.inj same).2.symm chars_append_ne_bracket
  | cons x xs =>
      cases ys with
      | nil =>
          simp only [chars, List.cons_append, List.append_assoc] at same
          exact absurd (List.cons.inj same).2 chars_append_ne_bracket
      | cons y ys => exact congrArg (',' :: ·) (List.cons.inj same).2

theorem moreFields_of_object {xs ys : List (String × Json)} {rest rest' : List Char}
    (same : (object xs).chars ++ rest = (object ys).chars ++ rest') :
    moreFields xs ++ rest = moreFields ys ++ rest' := by
  rcases xs with _ | ⟨⟨name, x⟩, xs⟩ <;> rcases ys with _ | ⟨⟨name', y⟩, ys⟩
  · exact (List.cons.inj same).2
  · exact absurd (List.cons.inj (List.cons.inj same).2).1 (by decide)
  · exact absurd (List.cons.inj (List.cons.inj same).2).1 (by decide)
  · exact congrArg (',' :: ·) (List.cons.inj same).2

mutual

/-- The text of a value can be told from what closes it. -/
theorem chars_append_inj : (v w : Json) → {rest rest' : List Char} → Closes rest → Closes rest' →
    v.chars ++ rest = w.chars ++ rest' → v.chars = w.chars ∧ rest = rest'
  | .null, w, _, _, _, _, same => by
      have kinds := kind_eq_of_chars same
      cases w <;> simp only [kind, reduceCtorEq] at kinds
      exact ⟨rfl, List.append_cancel_left same⟩
  | .bool a, w, _, _, _, _, same => by
      have kinds := kind_eq_of_chars same
      cases w <;> simp only [kind, reduceCtorEq, Kind.bool.injEq] at kinds
      subst kinds
      exact ⟨rfl, List.append_cancel_left same⟩
  | .number m, w, _, _, closes, closes', same => by
      have kinds := kind_eq_of_chars same
      cases w <;> simp only [kind, reduceCtorEq] at kinds
      exact Number.chars_append_inj closes closes' same
  | .string s, w, _, _, _, _, same => by
      have kinds := kind_eq_of_chars same
      cases w <;> simp only [kind, reduceCtorEq] at kinds
      obtain ⟨rfl, sameRest⟩ := quoted_append_inj same
      exact ⟨rfl, sameRest⟩
  | .array xs, w, _, _, _, _, same => by
      have kinds := kind_eq_of_chars same
      cases w <;> simp only [kind, reduceCtorEq] at kinds
      obtain ⟨sameItems, sameRest⟩ := moreItems_append_inj xs _ (moreItems_of_array same)
      exact ⟨chars_array_congr sameItems, sameRest⟩
  | .object xs, w, _, _, _, _, same => by
      have kinds := kind_eq_of_chars same
      cases w <;> simp only [kind, reduceCtorEq] at kinds
      obtain ⟨sameFields, sameRest⟩ := moreFields_append_inj xs _ (moreFields_of_object same)
      exact ⟨chars_object_congr sameFields, sameRest⟩

theorem moreItems_append_inj : (xs ys : List Json) → {rest rest' : List Char} →
    moreItems xs ++ rest = moreItems ys ++ rest' → xs.map chars = ys.map chars ∧ rest = rest'
  | [], [], _, _, same => ⟨rfl, List.append_cancel_left same⟩
  | [], _ :: _, _, _, same => absurd (List.cons.inj same).1 (by decide)
  | _ :: _, [], _, _, same => absurd (List.cons.inj same).1 (by decide)
  | x :: xs, y :: ys, rest, rest', same => by
      simp only [moreItems, List.cons_append, List.append_assoc] at same
      obtain ⟨sameFirst, tail⟩ := chars_append_inj x y (closes_moreItems xs rest)
        (closes_moreItems ys rest') (List.cons.inj same).2
      obtain ⟨sameOthers, sameRest⟩ := moreItems_append_inj xs ys tail
      exact ⟨by rw [List.map_cons, List.map_cons, sameFirst, sameOthers], sameRest⟩

theorem moreFields_append_inj : (xs ys : List (String × Json)) → {rest rest' : List Char} →
    moreFields xs ++ rest = moreFields ys ++ rest' → fieldTexts xs = fieldTexts ys ∧ rest = rest'
  | [], [], _, _, same => ⟨rfl, List.append_cancel_left same⟩
  | [], (_, _) :: _, _, _, same => absurd (List.cons.inj same).1 (by decide)
  | (_, _) :: _, [], _, _, same => absurd (List.cons.inj same).1 (by decide)
  | (name, x) :: xs, (_, y) :: ys, rest, rest', same => by
      simp only [moreFields, List.cons_append, List.append_assoc] at same
      obtain ⟨rfl, tail⟩ := quoted_append_inj (List.cons.inj same).2
      obtain ⟨sameFirst, tail⟩ := chars_append_inj x y (closes_moreFields xs rest)
        (closes_moreFields ys rest') (List.cons.inj tail).2
      obtain ⟨sameOthers, sameRest⟩ := moreFields_append_inj xs ys tail
      exact ⟨congrArg₂ List.cons (congrArg (Prod.mk name) sameFirst) sameOthers, sameRest⟩

end

/-- The text of an array can be taken apart into those of its items, whatever follows it. -/
theorem array_append_inj {xs ys : List Json} {rest rest' : List Char}
    (same : (array xs).chars ++ rest = (array ys).chars ++ rest') :
    xs.map chars = ys.map chars ∧ rest = rest' :=
  moreItems_append_inj xs ys (moreItems_of_array same)

end RowTriples.Json
