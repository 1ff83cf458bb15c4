import RowTriples.Entries
/-!
# JSON values

A number is an integer of the union of the signed and unsigned 64-bit ranges, or a finite float:
`1` and `1.0` are different values. An object keeps its fields in the order in which their names
were first written.
-/

namespace RowTriples

inductive Json.Number where
  | integer (n : Int) (lower : -Int.pow 2 63 ≤ n) (upper : n < Int.pow 2 64)
  | decimal (x : Float) (finite : x.isFinite = true)
  deriving DecidableEq

inductive Json where
  | null
  | bool (value : Bool)
  | number (value : Json.Number)
  | string (value : String)
  | array (items : List Json)
  | object (fields : List (String × Json))

namespace Json

instance : Inhabited Json := ⟨.null⟩

/-- The number `n`, if it lies in the range of JSON integers. -/
def Number.ofInt? (n : Int) : Option Number :=
  if h : -Int.pow 2 63 ≤ n ∧ n < Int.pow 2 64 then some (.integer n h.1 h.2) else none

def Number.ofInt64 (n : Int64) : Number :=
  .integer n.toInt n.le_toInt (Int.lt_trans n.toInt_lt (by decide))

/-- The number with the value of a float, if it is finite. -/
def Number.ofFloat? (x : Float) : Option Number :=
  if h : x.isFinite = true then some (.decimal x h) else none

/-- The value of a count, or `null` for one beyond the range of JSON integers. -/
def ofCount (n : Nat) : Json :=
  match Number.ofInt? n with
  | some k => .number k
  | none => .null

/-- The value of a float; JSON has no infinite numbers, and `null` stands for them. -/
def ofFloat (x : Float) : Json :=
  match Number.ofFloat? x with
  | some n => .number n
  | none => .null

def field? (name : String) : Json → Option Json
  | .object fields => Entries.get? name fields
  | _ => none

def items? : Json → Option (List Json)
  | .array items => some items
  | _ => none

def string? : Json → Option String
  | .string text => some text
  | _ => none

end Json

end RowTriples
