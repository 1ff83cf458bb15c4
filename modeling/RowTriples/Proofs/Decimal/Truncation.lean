import Mathlib.Data.Rat.Floor
import RowTriples.Decimal.Binary
/-!
# The integer part of a float

A float stands for an exact rational number unless it is infinite or no number at all. The three
parts that are read off its bits are those of this number, and dividing them as natural numbers
gives its integer part towards zero, whatever the sign and the exponent are.
-/

namespace RowTriples.Decimal

open Float.Model (UnpackedFloat)
open Float.Model.UnpackedFloat (Sign unpackExponent unpackMantissa unpackSign)

/-- The exact value of a float, unless it is infinite or no number. -/
def exactValue? (x : Float) : Option ℚ :=
  match x.toModel.unpack with
  | .finite sign mantissa exponent _ => some (sign.apply mantissa * 2 ^ exponent)
  | .zero _ => some 0
  | .infinity _ | .notANumber => none

/-- The integer next to a rational number towards zero. -/
def towardsZero (q : ℚ) : Int :=
  if q < 0 then ⌈q⌉ else ⌊q⌋

theorem exists_exactValue?_iff {x : Float} : (∃ q, exactValue? x = some q) ↔ x.isFinite = true := by
  have told : x.isFinite = x.toModel.unpack.isFinite := rfl
  rw [told, exactValue?]
  cases x.toModel.unpack with
  | finite | zero => exact iff_of_true ⟨_, rfl⟩ rfl
  | infinity | notANumber => exact iff_of_false nofun nofun

/-! ### The parts of a float -/

section Parts

variable (x : Float)

theorem toNat_unpackExponent :
    (@unpackExponent .binary64 x.toBits.toBitVec).toNat =
      x.toBits.toNat / 2 ^ 52 % 2 ^ 11 := by
  show x.toBits.toNat >>> 52 % 2 ^ 11 = _
  rw [Nat.shiftRight_eq_div_pow]

theorem toNat_unpackMantissa :
    (@unpackMantissa .binary64 x.toBits.toBitVec).toNat = x.toBits.toNat % 2 ^ 52 := by
  show x.toBits.toNat >>> 0 % 2 ^ 52 = _
  rw [Nat.shiftRight_zero]

theorem toNat_unpackSign :
    (@unpackSign .binary64 x.toBits.toBitVec).toNat = x.toBits.toNat / 2 ^ 63 := by
  have small : x.toBits.toNat < 2 ^ 64 := x.toBits.toNat_lt
  show x.toBits.toNat >>> 63 % 2 ^ 1 = _
  rw [Nat.shiftRight_eq_div_pow]
  omega

/-- The parts of a float are told by the fields of its bits. -/
theorem Binary.ofFloat_eq : Binary.ofFloat x =
    let field := (@unpackExponent .binary64 x.toBits.toBitVec).toNat
    let fraction := (@unpackMantissa .binary64 x.toBits.toBitVec).toNat
    ⟨(@unpackSign .binary64 x.toBits.toBitVec).toNat == 1,
      if field = 0 then fraction else 2 ^ 52 + fraction,
      (if field = 0 then 1 else field : Nat) - 1075⟩ := by
  simp only [toNat_unpackExponent, toNat_unpackMantissa, toNat_unpackSign]
  rfl

theorem Sign.ofBitVec_beq (b : BitVec 1) :
    (Sign.ofBitVec b == .negative) = (b.toNat == 1) := by
  revert b
  decide

theorem toNat_one_append (fraction : BitVec 52) :
    (1#1 ++ fraction).toNat = 2 ^ 52 + fraction.toNat := by
  have one : (1#1).toNat = 1 := rfl
  rw [BitVec.toNat_append, one, Nat.shiftLeft_eq, Nat.one_mul, Nat.or_comm,
    Nat.or_two_pow_eq_add_of_lt fraction.isLt, Nat.add_comm]

/-- What is read off the bits of a finite float is what the float is made of. -/
theorem ofFloat_of_unpack :
    match x.toModel.unpack with
    | .finite sign mantissa exponent _ =>
      Binary.ofFloat x = ⟨sign == .negative, mantissa, exponent⟩
    | .zero _ => (Binary.ofFloat x).mantissa = 0
    | .infinity _ | .notANumber => True := by
  have bits : x.toModel.unpack = UnpackedFloat.unpack .binary64 x.toBits.toBitVec := rfl
  rw [bits]
  unfold UnpackedFloat.unpack
  dsimp only
  by_cases special : @unpackExponent .binary64 x.toBits.toBitVec = -1#11
  · rw [if_pos special]
    by_cases infinite : @unpackMantissa .binary64 x.toBits.toBitVec = 0#52
    · rw [if_pos infinite]
      trivial
    · rw [if_neg infinite]
      trivial
  rw [if_neg special]
  by_cases subnormal : @unpackExponent .binary64 x.toBits.toBitVec = 0#11
  · have field : (@unpackExponent .binary64 x.toBits.toBitVec).toNat = 0 :=
      congrArg BitVec.toNat subnormal
    rw [if_pos subnormal]
    by_cases empty : @unpackMantissa .binary64 x.toBits.toBitVec = 0#52
    · rw [dif_pos empty]
      simp only [Binary.ofFloat_eq, field, if_true]
      exact congrArg BitVec.toNat empty
    · rw [dif_neg empty]
      simp only [Binary.ofFloat_eq, Sign.ofBitVec_beq, field, if_true]
      rfl
  · have field : (@unpackExponent .binary64 x.toBits.toBitVec).toNat ≠ 0 :=
      fun zero => subnormal (BitVec.eq_of_toNat_eq zero)
    rw [if_neg subnormal]
    simp only [Binary.ofFloat_eq, Sign.ofBitVec_beq, field, if_false, toNat_one_append]
    rfl

end Parts

namespace Binary

variable (b : Binary)

/-- The number that the three parts make up. -/
def value : ℚ :=
  b.signed b.mantissa * 2 ^ b.exponent

theorem two_zpow (e : Int) : (2 : ℚ) ^ e = 2 ^ e.toNat / 2 ^ (-e).toNat := by
  cases e with
  | ofNat n => simp
  | negSucc n => simp [zpow_negSucc, Int.neg_negSucc]

theorem signed_mul (m n : Nat) : b.signed (m * n) = b.signed m * n := by
  unfold signed
  split
  · rw [Nat.cast_mul, Int.neg_mul]
  · rw [Nat.cast_mul]

theorem value_eq_div : b.value = (b.signed b.numerator : ℚ) / b.denominator := by
  have denominator : (b.denominator : ℚ) = 2 ^ (-b.exponent).toNat := Nat.cast_pow 2 _
  have power : ((Nat.pow 2 b.exponent.toNat : Nat) : ℚ) = 2 ^ b.exponent.toNat := Nat.cast_pow 2 _
  rw [value, numerator, signed_mul, two_zpow, denominator, Int.cast_mul, Int.cast_natCast, power,
    mul_div_assoc]

end Binary

section Towards

variable {q : ℚ}

theorem towardsZero_of_nonneg (nonneg : 0 ≤ q) : towardsZero q = ⌊q⌋ :=
  if_neg (not_lt.mpr nonneg)

/-- The integer part of the negative is the negative of the integer part. -/
theorem towardsZero_neg (q : ℚ) : towardsZero (-q) = -towardsZero q := by
  rcases lt_trichotomy q 0 with negative | rfl | positive
  · rw [towardsZero_of_nonneg (neg_nonneg.mpr negative.le), towardsZero, if_pos negative,
      Int.floor_neg]
  · simp [towardsZero]
  · rw [towardsZero_of_nonneg positive.le, towardsZero, if_pos (neg_neg_of_pos positive),
      Int.ceil_neg]

end Towards

/-- The integer part of a float is that of the number that its parts make up. -/
theorem Binary.truncate_eq_towardsZero (b : Binary) : b.truncate = towardsZero b.value := by
  have magnitude : towardsZero ((b.numerator : ℚ) / b.denominator) =
      (b.numerator / b.denominator : Nat) := by
    rw [towardsZero_of_nonneg (by positivity), Rat.floor_natCast_div_natCast]
    rfl
  rw [value_eq_div, truncate]
  unfold signed
  split
  · rw [Int.cast_neg, Int.cast_natCast, neg_div, towardsZero_neg, magnitude]
  · rw [Int.cast_natCast, magnitude]

/-- The exact value of a finite float is that of the parts that are read off its bits. -/
theorem exactValue?_eq_value {x : Float} {q : ℚ} (exact : exactValue? x = some q) :
    q = (Binary.ofFloat x).value := by
  have parts := ofFloat_of_unpack x
  unfold exactValue? at exact
  generalize x.toModel.unpack = unpacked at exact parts
  cases unpacked with
  | finite sign mantissa exponent positive =>
    cases exact
    dsimp only at parts
    rw [parts]
    cases sign <;> rfl
  | zero sign =>
    cases exact
    dsimp only at parts
    rw [Binary.value, parts, Binary.signed]
    simp
  | infinity | notANumber => cases exact

end RowTriples.Decimal
