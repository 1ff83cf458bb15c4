/-!
# Floats as exact numbers

A finite float is `± mantissa · 2 ^ exponent`. `Binary.ofFloat` reads the three parts off the
bits, and all printing and rounding of floats is done on them in exact arithmetic.
-/

namespace RowTriples.Decimal

/-- The number `± mantissa · 2 ^ exponent`. -/
structure Binary where
  negative : Bool
  mantissa : Nat
  exponent : Int
  deriving DecidableEq, Repr

namespace Binary

/-- The parts of a finite float. Subnormal floats share the exponent of the least normal one and
lack the implicit leading bit. -/
def ofFloat (x : Float) : Binary :=
  let bits := x.toBits.toNat
  let field := bits / Nat.pow 2 52 % Nat.pow 2 11
  let fraction := bits % Nat.pow 2 52
  { negative := bits / Nat.pow 2 63 == 1
    mantissa := if field = 0 then fraction else Nat.pow 2 52 + fraction
    exponent := Int.ofNat (if field = 0 then 1 else field) - 1075 }

variable (b : Binary)

/-- The magnitude is `numerator / denominator`. -/
def numerator : Nat :=
  b.mantissa * Nat.pow 2 b.exponent.toNat

def denominator : Nat :=
  Nat.pow 2 (-b.exponent).toNat

/-- Puts the sign of `b` on a magnitude. -/
def signed (magnitude : Nat) : Int :=
  if b.negative then -(magnitude : Int) else magnitude

/-- The integer part, towards zero. -/
def truncate : Int :=
  b.signed (b.numerator / b.denominator)

/-- The nearest integer; a half goes away from zero. -/
def nearest : Int :=
  b.signed ((2 * b.numerator + b.denominator) / (2 * b.denominator))

end Binary

/-- The value of a number limited to the range of 64-bit signed integers. -/
def saturated (n : Int) : Int64 :=
  Int64.ofInt (max (-Int.pow 2 63) (min n (Int.pow 2 63 - 1)))

end RowTriples.Decimal
