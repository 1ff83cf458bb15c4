/-!
# Reading numbers

The two kinds of number that a text can hold are read whole: white space is not skipped, and
nothing may follow. Each way to fail has a cause with its wording.
-/

namespace RowTriples.Decimal

def digit? (c : Char) : Option Nat :=
  if c.isDigit then some (c.toNat - '0'.toNat) else none

/-- The number that a run of digits denotes, continuing from `value`. -/
def valueFrom (value : Nat) : List Char → Nat
  | [] => value
  | c :: cs => valueFrom (10 * value + (c.toNat - '0'.toNat)) cs

inductive IntegerError where
  | empty
  | invalidDigit
  | tooLarge
  | tooSmall
  deriving DecidableEq, Repr

def IntegerError.message : IntegerError → String
  | .empty => "cannot parse integer from empty string"
  | .invalidDigit => "invalid digit found in string"
  | .tooLarge => "number too large to fit in target type"
  | .tooSmall => "number too small to fit in target type"

/-- Reads digits up to the first that is none or that carries the magnitude over `limit`. -/
def readMagnitude (limit : Nat) (outside : IntegerError) (value : Nat) :
    List Char → Except IntegerError Nat
  | [] => .ok value
  | c :: cs =>
    match digit? c with
    | none => .error .invalidDigit
    | some d =>
      if limit < 10 * value + d then .error outside
      else readMagnitude limit outside (10 * value + d) cs

/-- Reads an integer from `-below` to `above`. A sign may stand in front, a minus sign only if
there are negative numbers in the range. -/
def readInteger (below above : Nat) : List Char → Except IntegerError Int
  | [] => .error .empty
  | ['+'] | ['-'] => .error .invalidDigit
  | '+' :: cs => Int.ofNat <$> readMagnitude above .tooLarge 0 cs
  | '-' :: cs =>
    if below = 0 then .error .invalidDigit
    else (fun n => -(n : Int)) <$> readMagnitude below .tooSmall 0 cs
  | cs => Int.ofNat <$> readMagnitude above .tooLarge 0 cs

def readInt64 (text : String) : Except IntegerError Int64 :=
  Int64.ofInt <$> readInteger (Nat.pow 2 63) (Nat.pow 2 63 - 1) text.toList

def readCount (text : String) : Except IntegerError Nat :=
  Int.toNat <$> readInteger 0 (Nat.pow 2 64 - 1) text.toList

inductive FloatError where
  | empty
  | invalid
  deriving DecidableEq, Repr

def FloatError.message : FloatError → String
  | .empty => "cannot parse float from empty string"
  | .invalid => "invalid float literal"

/-- The float nearest to `mantissa · 10 ^ exponent`. Exponents far outside the range of floats
are decided without computing the power. -/
def scaled (mantissa : Nat) (exponent : Int) : Float :=
  let digits := (Nat.toDigits 10 mantissa).length
  if mantissa = 0 ∨ exponent + digits < -400 then 0.0
  else if 400 < exponent + digits then 1.0 / 0.0
  else Float.ofScientific mantissa (exponent < 0) exponent.natAbs

/-- An exponent part: an optional sign and at least one digit, to the end of the text. -/
def readExponent? : List Char → Option Int
  | '+' :: cs => if cs.isEmpty || !cs.all Char.isDigit then none else some (valueFrom 0 cs)
  | '-' :: cs => if cs.isEmpty || !cs.all Char.isDigit then none else some (-(valueFrom 0 cs : Int))
  | cs => if cs.isEmpty || !cs.all Char.isDigit then none else some (valueFrom 0 cs)

/-- A number without sign: digits with an optional point, at least one of them, and an optional
exponent. -/
def readUnsigned? (cs : List Char) : Option Float :=
  let whole := cs.takeWhile Char.isDigit
  let rest := cs.dropWhile Char.isDigit
  let (fraction, rest) :=
    match rest with
    | '.' :: more => (more.takeWhile Char.isDigit, more.dropWhile Char.isDigit)
    | _ => ([], rest)
  if whole.isEmpty && fraction.isEmpty then none
  else
    let exponent? :=
      match rest with
      | [] => some 0
      | 'e' :: more | 'E' :: more => readExponent? more
      | _ => none
    exponent?.map fun e => scaled (valueFrom 0 (whole ++ fraction)) (e - fraction.length)

/-- Reads a float: a decimal number, or a word for infinity or for the float that is no number,
in letters of either case, with an optional sign. -/
def readFloat (text : String) : Except FloatError Float :=
  let magnitude? (cs : List Char) : Option Float :=
    match cs.map Char.toLower with
    | ['i', 'n', 'f'] | ['i', 'n', 'f', 'i', 'n', 'i', 't', 'y'] => some (1.0 / 0.0)
    | ['n', 'a', 'n'] => some (0.0 / 0.0)
    | _ => readUnsigned? cs
  let result :=
    match text.toList with
    | '+' :: cs => magnitude? cs
    | '-' :: cs => (magnitude? cs).map (-·)
    | cs => magnitude? cs
  if text.isEmpty then .error .empty
  else
    match result with
    | some x => .ok x
    | none => .error .invalid

end RowTriples.Decimal
