import RowTriples.Decimal.Binary
/-!
# The fewest digits that read back

Among the decimal numbers that round to a given float there are some with the fewest digits.
`shortest` finds the one of those nearest to the float. On the grid of numbers with `n` significant
digits only the two neighbours of the float matter: if any point of the grid reads back, one of
them does. So the grids are tried from one digit upwards, in exact arithmetic.
-/

namespace RowTriples.Decimal

/-- The positive number `digits · 10 ^ exponent`. -/
structure Digits where
  digits : Nat
  exponent : Int
  deriving DecidableEq, Repr

/-- Which of two equally near neighbours is taken. -/
inductive Tie where
  | away
  | toEven
  deriving DecidableEq, Repr

/-- The ends of the interval of reals that round to a float, and the float itself, in units of
`2 ^ exponent`. The ends belong to the interval exactly if the float's mantissa is even. -/
structure Interval where
  low : Nat
  value : Nat
  high : Nat
  exponent : Int
  closed : Bool

namespace Interval

/-- The interval around a nonzero finite float. Below a power of two the floats lie twice as
close, except at the very bottom of the range. -/
def around (b : Binary) : Interval :=
  let narrow := b.mantissa == Nat.pow 2 52 && b.exponent != -1074
  { low := 4 * b.mantissa - (if narrow then 1 else 2)
    value := 4 * b.mantissa
    high := 4 * b.mantissa + 2
    exponent := b.exponent - 2
    closed := b.mantissa % 2 == 0 }

variable (i : Interval)

/-- One unit of the interval in steps of `10 ^ k`, as a fraction. -/
def unitNumerator (k : Int) : Nat := Nat.pow 2 i.exponent.toNat * Nat.pow 10 (-k).toNat

def unitDenominator (k : Int) : Nat := Nat.pow 2 (-i.exponent).toNat * Nat.pow 10 k.toNat

/-- Whether `n · 10 ^ k` reads back. -/
def holds (k : Int) (n : Nat) : Bool :=
  let point := n * i.unitDenominator k
  let low := i.low * i.unitNumerator k
  let high := i.high * i.unitNumerator k
  if i.closed then low ≤ point && point ≤ high else low < point && point < high

/-- The point of the grid of multiples of `10 ^ k` that reads back and is nearest to the value. -/
def pick? (tie : Tie) (k : Int) : Option Nat :=
  let value := i.value * i.unitNumerator k
  let step := i.unitDenominator k
  let below := value / step
  match i.holds k below, i.holds k (below + 1) with
  | false, false => none
  | true, false => some below
  | false, true => some (below + 1)
  | true, true =>
    let rest := 2 * (value % step)
    if rest < step then some below
    else if step < rest then some (below + 1)
    else if tie = .toEven ∧ below % 2 = 0 then some below
    else some (below + 1)

/-- The decimal exponent of the value's leading digit. -/
def magnitude : Int :=
  let shift := 400
  let scaled := i.value * i.unitNumerator (-shift) / i.unitDenominator (-shift)
  ((Nat.toDigits 10 scaled).length : Int) - 1 - shift

/-- Tries the grids with more and more digits; seventeen always suffice. -/
def search (tie : Tie) (k : Int) : Nat → Digits
  | 0 => ⟨i.value * i.unitNumerator k / i.unitDenominator k, k⟩
  | more + 1 =>
    match i.pick? tie k with
    | some n => ⟨n, k⟩
    | none => search tie (k - 1) more

end Interval

/-- The nearest of the shortest decimals that read back as the nonzero finite float. -/
def shortest (tie : Tie) (b : Binary) : Digits :=
  let i := Interval.around b
  i.search tie i.magnitude 17

end RowTriples.Decimal
