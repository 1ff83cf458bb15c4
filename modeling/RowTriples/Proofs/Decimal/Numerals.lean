import Mathlib.Data.Nat.Digits.Defs
import RowTriples.Decimal.Reader
import RowTriples.Proofs.Pointwise
/-!
# Reading integers

A run of digits denotes a natural number, and a sign in front of it makes an integer of it. A text
is read as an integer of a range exactly if it denotes an integer of that range: however many digits
there are, no other number comes of them.
-/

namespace RowTriples.Decimal

/-! ### Runs of digits -/

theorem valueFrom_cons (value : Nat) (c : Char) (cs : List Char) :
    valueFrom value (c :: cs) = valueFrom (10 * value + (c.toNat - '0'.toNat)) cs := by
  -- Folded, both sides would be compared argument by argument, numbers first.
  delta valueFrom
  rfl

theorem valueFrom_eq_ofDigitChars (value : Nat) (ds : List Char) :
    valueFrom value ds = Nat.ofDigitChars 10 ds value := by
  induction ds generalizing value with
  | nil => rfl
  | cons c ds ih => rw [valueFrom_cons, ih, Nat.ofDigitChars_cons]

/-- Further digits never make a number smaller. -/
theorem le_valueFrom (value : Nat) (cs : List Char) : value ≤ valueFrom value cs := by
  induction cs generalizing value with
  | nil => exact Nat.le_refl value
  | cons c cs ih =>
      rw [valueFrom_cons]
      have := ih (10 * value + (c.toNat - '0'.toNat))
      omega

/-- A magnitude is read exactly from digits whose number is within the limit. -/
theorem readMagnitude_eq_ok_iff {limit value n : Nat} {outside : IntegerError} {cs : List Char}
    (within : value ≤ limit) :
    readMagnitude limit outside value cs = .ok n ↔
      (∀ c ∈ cs, c.isDigit = true) ∧ valueFrom value cs = n ∧ n ≤ limit := by
  induction cs generalizing value with
  | nil =>
      constructor
      · intro read
        cases read
        exact ⟨nofun, rfl, within⟩
      · rintro ⟨_, rfl, _⟩
        rfl
  | cons c cs ih =>
      rw [readMagnitude, digit?, valueFrom_cons, List.forall_mem_cons]
      by_cases digit : c.isDigit = true
      · simp only [digit, if_true, true_and]
        split
        next beyond =>
          refine iff_of_false nofun ?_
          rintro ⟨_, rfl, small⟩
          exact absurd (Nat.le_trans (le_valueFrom _ cs) small) (Nat.not_le.mpr beyond)
        next small => exact ih (Nat.not_lt.mp small)
      · simp [digit]

/-! ### Numerals -/

/-- The text consists of digits, with or without a sign in front of them, and denotes the
integer. -/
inductive IsNumeral : List Char → Int → Prop where
  | plain {ds : List Char} (nonempty : ds ≠ []) (digits : ∀ c ∈ ds, c.isDigit = true) :
      IsNumeral ds (Nat.ofDigitChars 10 ds 0)
  | plus {ds : List Char} (nonempty : ds ≠ []) (digits : ∀ c ∈ ds, c.isDigit = true) :
      IsNumeral ('+' :: ds) (Nat.ofDigitChars 10 ds 0)
  | minus {ds : List Char} (nonempty : ds ≠ []) (digits : ∀ c ∈ ds, c.isDigit = true) :
      IsNumeral ('-' :: ds) (-Nat.ofDigitChars 10 ds 0)

theorem ne_sign_of_isDigit {c : Char} (digit : c.isDigit = true) : c ≠ '+' ∧ c ≠ '-' := by
  constructor <;> rintro rfl <;> exact absurd digit (by decide)

section Inversion

variable {ds cs : List Char} {n : Int}

theorem isNumeral_plus_iff : IsNumeral ('+' :: ds) n ↔
    ds ≠ [] ∧ (∀ c ∈ ds, c.isDigit = true) ∧ Nat.ofDigitChars 10 ds 0 = n := by
  constructor
  · intro numeral
    cases numeral with
    | plain _ digits => exact absurd rfl (ne_sign_of_isDigit (digits _ List.mem_cons_self)).1
    | plus nonempty digits => exact ⟨nonempty, digits, rfl⟩
  · rintro ⟨nonempty, digits, rfl⟩
    exact .plus nonempty digits

theorem isNumeral_minus_iff : IsNumeral ('-' :: ds) n ↔
    ds ≠ [] ∧ (∀ c ∈ ds, c.isDigit = true) ∧ -Nat.ofDigitChars 10 ds 0 = n := by
  constructor
  · intro numeral
    cases numeral with
    | plain _ digits => exact absurd rfl (ne_sign_of_isDigit (digits _ List.mem_cons_self)).2
    | minus nonempty digits => exact ⟨nonempty, digits, rfl⟩
  · rintro ⟨nonempty, digits, rfl⟩
    exact .minus nonempty digits

theorem isNumeral_plain_iff (plus : ∀ ds, cs ≠ '+' :: ds) (minus : ∀ ds, cs ≠ '-' :: ds) :
    IsNumeral cs n ↔
      cs ≠ [] ∧ (∀ c ∈ cs, c.isDigit = true) ∧ Nat.ofDigitChars 10 cs 0 = n := by
  constructor
  · intro numeral
    cases numeral with
    | plain nonempty digits => exact ⟨nonempty, digits, rfl⟩
    | plus => exact absurd rfl (plus _)
    | minus => exact absurd rfl (minus _)
  · rintro ⟨nonempty, digits, rfl⟩
    exact .plain nonempty digits

end Inversion

/-! ### Integers of a range -/

section Ranges

variable {below above limit : Nat} {cs : List Char} {n : Int}

/-- What is made of a magnitude is made of the number that its digits denote. -/
theorem map_readMagnitude_eq_ok_iff {outside : IntegerError} {f : Nat → Int} :
    f <$> readMagnitude limit outside 0 cs = .ok n ↔
      ((∀ c ∈ cs, c.isDigit = true) ∧ f (Nat.ofDigitChars 10 cs 0) = n) ∧
        Nat.ofDigitChars 10 cs 0 ≤ limit := by
  rw [map_eq_ok_iff]
  simp only [readMagnitude_eq_ok_iff (Nat.zero_le limit), valueFrom_eq_ofDigitChars]
  constructor
  · rintro ⟨_, ⟨digits, rfl, small⟩, rfl⟩
    exact ⟨⟨digits, rfl⟩, small⟩
  · rintro ⟨⟨digits, rfl⟩, small⟩
    exact ⟨_, ⟨digits, rfl, small⟩, rfl⟩

/-- A text is read as an integer of the range exactly if it denotes this integer. -/
theorem readInteger_eq_ok_iff (signed : 0 < below) :
    readInteger below above cs = .ok n ↔ IsNumeral cs n ∧ -(below : Int) ≤ n ∧ n ≤ above := by
  unfold readInteger
  split
  next =>
    refine iff_of_false nofun fun ⟨numeral, _⟩ => ?_
    cases numeral
    contradiction
  next =>
    exact iff_of_false nofun fun ⟨numeral, _⟩ => (isNumeral_plus_iff.mp numeral).1 rfl
  next =>
    exact iff_of_false nofun fun ⟨numeral, _⟩ => (isNumeral_minus_iff.mp numeral).1 rfl
  next ds nonempty =>
    rw [map_readMagnitude_eq_ok_iff, isNumeral_plus_iff]
    constructor
    · rintro ⟨⟨digits, rfl⟩, small⟩
      exact ⟨⟨nonempty, digits, rfl⟩, by simp only [Int.ofNat_eq_natCast]; omega⟩
    · rintro ⟨⟨_, digits, rfl⟩, _, small⟩
      exact ⟨⟨digits, rfl⟩, by omega⟩
  next ds nonempty =>
    rw [if_neg (Nat.ne_of_gt signed), bind_pure_comp, Functor.map_map,
      map_readMagnitude_eq_ok_iff, isNumeral_minus_iff]
    constructor
    · rintro ⟨⟨digits, rfl⟩, small⟩
      exact ⟨⟨nonempty, digits, rfl⟩, by omega⟩
    · rintro ⟨⟨_, digits, rfl⟩, large, _⟩
      exact ⟨⟨digits, rfl⟩, by omega⟩
  next nonempty _ _ plus minus =>
    rw [map_readMagnitude_eq_ok_iff, isNumeral_plain_iff plus minus]
    constructor
    · rintro ⟨⟨digits, rfl⟩, small⟩
      exact ⟨⟨nonempty, digits, rfl⟩, by simp only [Int.ofNat_eq_natCast]; omega⟩
    · rintro ⟨⟨_, digits, rfl⟩, _, small⟩
      exact ⟨⟨digits, rfl⟩, by omega⟩

/-- A text is read as a 64-bit integer exactly if it denotes this integer. -/
theorem readInt64_eq_ok_iff {text : String} {n : Int64} :
    readInt64 text = .ok n ↔ IsNumeral text.toList n.toInt := by
  have lower : -(2 ^ 63 : Int) ≤ n.toInt := n.le_toInt
  have upper : n.toInt < (2 ^ 63 : Int) := n.toInt_lt
  have below : ((Nat.pow 2 63 : Nat) : Int) = 2 ^ 63 := rfl
  have above : ((Nat.pow 2 63 - 1 : Nat) : Int) = 2 ^ 63 - 1 := rfl
  rw [readInt64, map_eq_ok_iff]
  simp only [readInteger_eq_ok_iff (Nat.two_pow_pos 63), below, above]
  constructor
  · rintro ⟨k, ⟨numeral, large, small⟩, rfl⟩
    rwa [Int64.toInt_ofInt_of_le large (by omega)]
  · intro numeral
    exact ⟨n.toInt, ⟨numeral, by omega, by omega⟩, (Int64.ofInt_toInt n).symm⟩

end Ranges

/-- A text denotes one integer at most: the one that it is read as, if the range is wide enough. -/
theorem IsNumeral.unique {cs : List Char} {n n' : Int} (h : IsNumeral cs n) (h' : IsNumeral cs n') :
    n = n' := by
  have read (k : Int) (numeral : IsNumeral cs k) (small : k.natAbs ≤ n.natAbs + n'.natAbs + 1) :
      readInteger (n.natAbs + n'.natAbs + 1) (n.natAbs + n'.natAbs + 1) cs = .ok k :=
    (readInteger_eq_ok_iff (Nat.succ_pos _)).mpr ⟨numeral, by omega, by omega⟩
  have same := (read n h (by omega)).symm.trans (read n' h' (by omega))
  cases same
  rfl

end RowTriples.Decimal
