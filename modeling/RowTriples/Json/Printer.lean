import RowTriples.Decimal.Layout
import RowTriples.Json.Basic
/-!
# Compact JSON text

The text of a value without any white space. In strings only the quotation mark, the backslash and
the control characters below U+0020 are escaped.
-/

namespace RowTriples.Json

/-- The lower-case hexadecimal digits of a code point, at least `width` of them. -/
def hexDigits (width n : Nat) : List Char :=
  let ds := Nat.toDigits 16 n
  List.replicate (width - ds.length) '0' ++ ds

/-- A character as it stands between the quotation marks of a string. -/
def escaped (c : Char) : List Char :=
  if c = '"' then ['\\', '"']
  else if c = '\\' then ['\\', '\\']
  else if c = '\n' then ['\\', 'n']
  else if c = '\r' then ['\\', 'r']
  else if c = '\t' then ['\\', 't']
  else if c = '\x08' then ['\\', 'b']
  else if c = '\x0c' then ['\\', 'f']
  else if c.toNat < 0x20 then ['\\', 'u'] ++ hexDigits 4 c.toNat
  else [c]

def quoted (text : String) : List Char :=
  '"' :: text.toList.flatMap escaped ++ ['"']

/-- A number: integers in decimal, floats with the fewest digits that read back. -/
def Number.chars : Number → List Char
  | .integer n _ _ => (toString n).toList
  | .decimal x _ => (Decimal.Layout.json.finite x).toList

mutual

def chars : Json → List Char
  | .null => ['n', 'u', 'l', 'l']
  | .bool true => ['t', 'r', 'u', 'e']
  | .bool false => ['f', 'a', 'l', 's', 'e']
  | .number n => n.chars
  | .string text => quoted text
  | .array [] => ['[', ']']
  | .array (item :: items) => '[' :: chars item ++ moreItems items
  | .object [] => ['\x7b', '\x7d']
  | .object ((name, value) :: fields) =>
    '\x7b' :: quoted name ++ ':' :: chars value ++ moreFields fields

/-- The items of an array behind the first one, and its end. -/
def moreItems : List Json → List Char
  | [] => [']']
  | item :: items => ',' :: chars item ++ moreItems items

def moreFields : List (String × Json) → List Char
  | [] => ['\x7d']
  | (name, value) :: fields => ',' :: quoted name ++ ':' :: chars value ++ moreFields fields

end

def compact (value : Json) : String :=
  String.ofList value.chars

end RowTriples.Json
