import RowTriples.Text.Hidden
/-!
# Quoted text in messages

Between quotation marks, quotation marks and backslashes are escaped, the common control characters
have their letters, and every other character that does not show by itself is written as its code
point.
-/

namespace RowTriples.Text

/-- A character as it stands between quotation marks in a message. -/
def shown (c : Char) : List Char :=
  if c = '"' then ['\\', '"']
  else if c = '\\' then ['\\', '\\']
  else if c = '\n' then ['\\', 'n']
  else if c = '\r' then ['\\', 'r']
  else if c = '\t' then ['\\', 't']
  else if c = '\x00' then ['\\', '0']
  else if isHidden c then ['\\', 'u', '\x7b'] ++ Nat.toDigits 16 c.toNat ++ ['\x7d']
  else [c]

/-- The text in quotation marks, so that everything in it shows. -/
def quoted (text : String) : String :=
  String.ofList ('"' :: text.toList.flatMap shown ++ ['"'])

end RowTriples.Text
