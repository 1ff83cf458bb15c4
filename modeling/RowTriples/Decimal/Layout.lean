import RowTriples.Decimal.Shortest
/-!
# Floats as text

A layout says how the digits of a float are set: which decimal exponents are written
positionally, whether a positive exponent carries a sign, and where ties go. The two layouts of
this library are `Layout.plain`, for literals and plain text, and `Layout.json`.
-/

namespace RowTriples.Decimal

/-- How the digits of a float are set. -/
structure Layout where
  /-- The least decimal exponent that is written positionally. -/
  least : Int
  /-- The least decimal exponent that is too great to be written positionally. -/
  past : Int
  /-- Whether a positive exponent is written with a plus sign. -/
  plus : Bool
  tie : Tie

/-- Literals and plain text: positional from `0.0001` up to sixteen digits. -/
def Layout.plain : Layout := ⟨-4, 16, false, .away⟩

/-- JSON numbers: positional from `0.00001` up to sixteen digits, exponents signed. -/
def Layout.json : Layout := ⟨-5, 16, true, .toEven⟩

/-- The digits before and after a point that stands behind the first `n` digits. -/
def pointed (n : Nat) (ds : List Char) : List Char :=
  ds.take n ++ List.replicate (n - ds.length) '0' ++ '.' ::
    (if ds.length ≤ n then ['0'] else ds.drop n)

/-- The digits `ds` with `10 ^ e` as the place of the first one, without exponent. -/
def positional (ds : List Char) (e : Int) : List Char :=
  if 0 ≤ e then pointed (e.toNat + 1) ds
  else ['0', '.'] ++ List.replicate (-e - 1).toNat '0' ++ ds

/-- The digits `ds` with one digit before the point and an exponent. -/
def scientific (layout : Layout) (ds : List Char) (e : Int) : List Char :=
  let sign := if e < 0 then ['-'] else if layout.plus then ['+'] else []
  ds.take 1 ++ (if ds.length ≤ 1 then [] else '.' :: ds.drop 1) ++ 'e' :: sign ++
    Nat.toDigits 10 e.natAbs

/-- The digits of a positive number, without the zeros at the end. -/
def significant (n : Nat) : List Char :=
  ((Nat.toDigits 10 n).reverse.dropWhile (· == '0')).reverse

/-- The text of a float that is not finite, if it is none. -/
def special? (x : Float) : Option String :=
  if x.isNaN then some "NaN"
  else if x.isInf then some (if x < 0 then "-inf" else "inf")
  else none

namespace Layout

variable (layout : Layout)

def magnitude (d : Digits) : List Char :=
  let e := d.exponent + (Nat.toDigits 10 d.digits).length - 1
  let ds := significant d.digits
  if layout.least ≤ e ∧ e < layout.past then positional ds e else scientific layout ds e

def finite (x : Float) : String :=
  let b := Binary.ofFloat x
  let text := if b.mantissa = 0 then ['0', '.', '0'] else layout.magnitude (shortest layout.tie b)
  String.ofList (if b.negative then '-' :: text else text)

def text (x : Float) : String :=
  (special? x).getD (layout.finite x)

end Layout

/-- `num / den` rounded to a whole number; a half goes to the even neighbour. -/
def roundHalfEven (num den : Nat) : Nat :=
  let below := num / den
  let rest := 2 * (num % den)
  if rest < den then below
  else if den < rest then below + 1
  else below + below % 2

/-- A finite float with a fixed number of decimal places. A result that is all zeros has no
sign. -/
def fixedFinite (places : Nat) (x : Float) : String :=
  let b := Binary.ofFloat x
  let units := roundHalfEven (b.numerator * Nat.pow 10 places) b.denominator
  let ds := Nat.toDigits 10 units
  let ds := List.replicate (places + 1 - ds.length) '0' ++ ds
  let whole := ds.length - places
  let text := ds.take whole ++ '.' :: ds.drop whole
  String.ofList (if b.negative && units != 0 then '-' :: text else text)

def fixed (places : Nat) (x : Float) : String :=
  (special? x).getD (fixedFinite places x)

end RowTriples.Decimal
