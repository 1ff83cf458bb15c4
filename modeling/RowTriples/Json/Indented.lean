import RowTriples.Json.Printer
/-!
# Indented JSON text

The text of a value with every item and field on a line of its own, indented by two spaces a level.
Empty arrays and objects stay on one line.
-/

namespace RowTriples.Json

/-- The beginning of a line at a level. -/
def lineStart (level : Nat) : List Char :=
  '\n' :: List.replicate (2 * level) ' '

mutual

def indentedChars (level : Nat) : Json → List Char
  | .array (item :: items) =>
    '[' :: lineStart (level + 1) ++ indentedChars (level + 1) item ++ indentedItems level items
  | .object ((name, value) :: fields) =>
    '\x7b' :: lineStart (level + 1) ++ quoted name ++ ':' :: ' ' ::
      indentedChars (level + 1) value ++ indentedFields level fields
  | value => value.chars

/-- The items of an array behind the first one, and its end. -/
def indentedItems (level : Nat) : List Json → List Char
  | [] => lineStart level ++ [']']
  | item :: items =>
    ',' :: lineStart (level + 1) ++ indentedChars (level + 1) item ++ indentedItems level items

def indentedFields (level : Nat) : List (String × Json) → List Char
  | [] => lineStart level ++ ['\x7d']
  | (name, value) :: fields =>
    ',' :: lineStart (level + 1) ++ quoted name ++ ':' :: ' ' ::
      indentedChars (level + 1) value ++ indentedFields level fields

end

def indented (value : Json) : String :=
  String.ofList (value.indentedChars 0)

end RowTriples.Json
