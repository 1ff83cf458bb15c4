import RowTriples.Decimal.Reader
import RowTriples.Document.Value
/-!
# Reading JSON text

`Json.Text.document?` reads a whole JSON text into a `Document`, in which repeated fields are kept
and which marks as unusable what is grammatical but has no value: a number beyond the floats, a
string with half of a surrogate pair, and what lies more than 127 levels deep. `Json.parse?` then
asks for a value of every part; of a repeated field the last value counts, in the first place.

Every reader takes the rest of the text and returns what it leaves over.
-/

namespace RowTriples.Json.Text

/-- Drops the white space of JSON, which is less than that of Unicode. -/
def skipSpace (cs : List Char) : List Char :=
  cs.dropWhile fun c => c = ' ' || c = '\t' || c = '\n' || c = '\r'

/-! ### Numbers

The digits of a number are gathered into an unsigned 64-bit significand. Digits that do not fit
any more only shift the point, and those behind the point are lost. The significand is then
rounded to a float and scaled by a power of ten in a single step where the power is a float. -/

def significandLimit : Nat := Nat.pow 2 64 - 1

/-- Appends digits to a significand as long as they fit; the other digits are returned. -/
def gather (significand : Nat) : List Char → Nat × List Char
  | [] => (significand, [])
  | c :: cs =>
    let next := 10 * significand + (c.toNat - '0'.toNat)
    if next ≤ significandLimit then gather next cs else (significand, c :: cs)

def powerOfTen (n : Nat) : Float :=
  Float.ofScientific 1 false n

/-- `x · 10 ^ e`, unless it is infinite. Exponents below those of floats are applied in several
steps; after three of them nothing is left of `x`. -/
def scale? (x : Float) (e : Int) : Nat → Option Float
  | 0 => some x
  | steps + 1 =>
    if e.natAbs ≤ 308 then
      if 0 ≤ e then
        let y := x * powerOfTen e.toNat
        if y.isInf then none else some y
      else some (x / powerOfTen (-e).toNat)
    else if x == 0.0 then some x
    else if 0 ≤ e then none
    else scale? (x / powerOfTen 308) (e + 308) steps

def float? (negative : Bool) (significand : Nat) (e : Int) : Option Float :=
  (scale? (Float.ofNat significand) e 4).map fun x => if negative then -x else x

/-- A run of digits and what follows it; there has to be a digit. -/
def digits? (cs : List Char) : Option (List Char × List Char) :=
  let ds := cs.takeWhile Char.isDigit
  if ds.isEmpty then none else some (ds, cs.dropWhile Char.isDigit)

/-- A run of digits that has no needless zero in front. -/
def wholeDigits? (cs : List Char) : Option (List Char × List Char) :=
  match digits? cs with
  | some ('0' :: _ :: _, _) => none
  | other => other

def fraction? : List Char → Option (List Char × List Char)
  | '.' :: cs => digits? cs
  | cs => some ([], cs)

def exponent? (cs : List Char) : Option (Int × List Char) :=
  match cs with
  | '-' :: cs => (digits? cs).map fun (ds, rest) => (-(Decimal.valueFrom 0 ds : Int), rest)
  | '+' :: cs => (digits? cs).map fun (ds, rest) => ((Decimal.valueFrom 0 ds : Int), rest)
  | cs => (digits? cs).map fun (ds, rest) => ((Decimal.valueFrom 0 ds : Int), rest)

def optionalExponent? : List Char → Option (Option Int × List Char)
  | 'e' :: cs | 'E' :: cs => (exponent? cs).map fun (e, rest) => (some e, rest)
  | cs => some (none, cs)

/-- The value of a number from its parts. Without fraction and exponent it is an integer if it
fits; minus zero is a float. -/
def numberOf (negative : Bool) (whole fraction : List Char) (e : Option Int) : Option Number :=
  let n := Decimal.valueFrom 0 whole
  let signed : Int := if negative then -(n : Int) else n
  let integer? := if negative && n == 0 then none else Number.ofInt? signed
  match fraction, e, integer? with
  | [], none, some n => some n
  | _, _, _ =>
    let (significand, lost) := gather 0 whole
    let (significand, unread) := gather significand fraction
    let shift : Int := (e.getD 0) + lost.length - (fraction.length - unread.length : Nat)
    (float? negative significand shift).bind Number.ofFloat?

def unsigned? (negative : Bool) (cs : List Char) : Option (Document × List Char) := do
  let (whole, cs) ← wholeDigits? cs
  let (fraction, cs) ← fraction? cs
  let (e, cs) ← optionalExponent? cs
  let document :=
    match numberOf negative whole fraction e with
    | some n => .number n
    | none => .unusable
  return (document, cs)

/-! ### Strings -/

def hexValue? (c : Char) : Option Nat :=
  if c.isDigit then some (c.toNat - '0'.toNat)
  else if 'a' ≤ c ∧ c ≤ 'f' then some (c.toNat - 'a'.toNat + 10)
  else if 'A' ≤ c ∧ c ≤ 'F' then some (c.toNat - 'A'.toNat + 10)
  else none

def hexQuad? (a b c d : Char) : Option Nat := do
  return 4096 * (← hexValue? a) + 256 * (← hexValue? b) + 16 * (← hexValue? c) + (← hexValue? d)

/-- The character that a letter stands for behind a backslash. -/
def escape? (c : Char) : Option Char :=
  match c with
  | '"' => some '"'
  | '\\' => some '\\'
  | '/' => some '/'
  | 'b' => some '\x08'
  | 'f' => some '\x0c'
  | 'n' => some '\n'
  | 'r' => some '\r'
  | 't' => some '\t'
  | _ => none

/-- One unit of a string: a character, or a 16-bit unit written in hexadecimal. -/
inductive StringUnit where
  | char (c : Char)
  | hex (n : Nat)

/-- The units of a string behind its opening quotation mark, up to the closing one. -/
def units? : List Char → Option (List StringUnit × List Char)
  | [] => none
  | '"' :: cs => some ([], cs)
  | '\\' :: 'u' :: a :: b :: c :: d :: cs => do
    let n ← hexQuad? a b c d
    let (units, rest) ← units? cs
    return (.hex n :: units, rest)
  | '\\' :: e :: cs => do
    let c ← escape? e
    let (units, rest) ← units? cs
    return (.char c :: units, rest)
  | c :: cs =>
    if c.toNat < 0x20 then none
    else do
      let (units, rest) ← units? cs
      return (.char c :: units, rest)

/-- The characters of a string, if every surrogate belongs to a pair. -/
def characters? : List StringUnit → Option (List Char)
  | [] => some []
  | .char c :: units => (characters? units).map (c :: ·)
  | .hex high :: .hex low :: units =>
    if 0xD800 ≤ high ∧ high < 0xDC00 then
      if 0xDC00 ≤ low ∧ low < 0xE000 then
        let c := Char.ofNat (0x10000 + (high - 0xD800) * 0x400 + (low - 0xDC00))
        (characters? units).map (c :: ·)
      else none
    else if 0xDC00 ≤ high ∧ high < 0xE000 then none
    else (characters? (.hex low :: units)).map (Char.ofNat high :: ·)
  | .hex n :: units =>
    if 0xD800 ≤ n ∧ n < 0xE000 then none else (characters? units).map (Char.ofNat n :: ·)

/-- A string behind its opening quotation mark; without value if a surrogate stands alone. -/
def string? (cs : List Char) : Option (Option String × List Char) :=
  (units? cs).map fun (units, rest) => ((characters? units).map String.ofList, rest)

/-! ### Values -/

/-- The items of an array behind one of them, up to the closing bracket. -/
def items? (item? : List Char → Option (Document × List Char)) :
    (fuel : Nat) → List Char → Option (List Document × List Char)
  | 0, _ => none
  | fuel + 1, cs =>
    match skipSpace cs with
    | ']' :: cs => some ([], cs)
    | ',' :: cs => do
      let (item, cs) ← item? cs
      let (items, cs) ← items? item? fuel cs
      return (item :: items, cs)
    | _ => none

def field? (item? : List Char → Option (Document × List Char)) (cs : List Char) :
    Option ((Option String × Document) × List Char) :=
  match skipSpace cs with
  | '"' :: cs => do
    let (name, cs) ← string? cs
    match skipSpace cs with
    | ':' :: cs =>
      let (value, cs) ← item? cs
      return ((name, value), cs)
    | _ => none
  | _ => none

/-- The fields of an object behind one of them, up to the closing brace. -/
def fields? (item? : List Char → Option (Document × List Char)) :
    (fuel : Nat) → List Char → Option (List (Option String × Document) × List Char)
  | 0, _ => none
  | fuel + 1, cs =>
    match skipSpace cs with
    | '\x7d' :: cs => some ([], cs)
    | ',' :: cs => do
      let (field, cs) ← field? item? cs
      let (fields, cs) ← fields? item? fuel cs
      return (field :: fields, cs)
    | _ => none

/-- A map of the given fields, if every name has a value. -/
def mapOf (fields : List (Option String × Document)) : Document :=
  match fields.mapM fun (name, value) => name.map (·, value) with
  | some entries => .map entries
  | none => .unusable

/-- A bracketed value as far as the depth allows. -/
def nested (depth : Nat) (value : Document) : Document :=
  if depth = 0 then .unusable else value

/-- A value, where arrays and objects may still be nested `depth` levels deep. The fuel bounds the
nesting that is read at all. -/
def value? : (fuel depth : Nat) → List Char → Option (Document × List Char)
  | 0, _, _ => none
  | fuel + 1, depth, cs =>
    match skipSpace cs with
    | 'n' :: 'u' :: 'l' :: 'l' :: cs => some (.null, cs)
    | 't' :: 'r' :: 'u' :: 'e' :: cs => some (.bool true, cs)
    | 'f' :: 'a' :: 'l' :: 's' :: 'e' :: cs => some (.bool false, cs)
    | '"' :: cs => (string? cs).map fun (text, cs) => ((text.map .text).getD .unusable, cs)
    | '-' :: cs => unsigned? true cs
    | '[' :: cs =>
      match skipSpace cs with
      | ']' :: cs => some (nested depth (.sequence []), cs)
      | cs => do
        let (item, cs) ← value? fuel (depth - 1) cs
        let (items, cs) ← items? (value? fuel (depth - 1)) cs.length.succ cs
        return (nested depth (.sequence (item :: items)), cs)
    | '\x7b' :: cs =>
      match skipSpace cs with
      | '\x7d' :: cs => some (nested depth (.map []), cs)
      | cs => do
        let (field, cs) ← field? (value? fuel (depth - 1)) cs
        let (fields, cs) ← fields? (value? fuel (depth - 1)) cs.length.succ cs
        return (nested depth (mapOf (field :: fields)), cs)
    | cs => unsigned? false cs

/-- The number of levels that arrays and objects may be nested. -/
def depthLimit : Nat := 127

def document? (text : String) : Option Document :=
  let cs := text.toList
  match value? cs.length.succ depthLimit cs with
  | some (document, rest) => if (skipSpace rest).isEmpty then some document else none
  | none => none

end RowTriples.Json.Text

namespace RowTriples.Json

def parse? (text : String) : Option Json :=
  (Text.document? text).bind Document.json?

end RowTriples.Json
