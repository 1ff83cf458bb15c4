import RowTriples.Text.Pieces
/-!
# Paths

A path names a file by the directories on the way to it, with a slash between neighbours. What is
looked at here is the text of the path alone.
-/

namespace RowTriples.Path

/-- The parts of a path, empty ones included. -/
def parts (path : String) : List String :=
  Text.splitAt "/" path

/-- The last part of a path that names something. -/
def fileName? (path : String) : Option String :=
  ((parts path).filter fun part => part ≠ "" && part ≠ ".").getLast?.filter (· ≠ "..")

/-- A file name cut at its last point, if there is one behind the first character. -/
def splitName (name : String) : String × Option String :=
  let reversed := name.toList.reverse
  match reversed.dropWhile (· ≠ '.') with
  | '.' :: stem =>
    if stem.isEmpty then (name, none)
    else (String.ofList stem.reverse, some (String.ofList (reversed.takeWhile (· ≠ '.')).reverse))
  | _ => (name, none)

/-- The name of a file without its extension. -/
def stem? (path : String) : Option String :=
  (fileName? path).map fun name => (splitName name).1

def extension? (path : String) : Option String :=
  (fileName? path).bind fun name => (splitName name).2

def join (directory name : String) : String :=
  if directory.isEmpty then name
  else if directory.endsWith "/" then directory ++ name
  else directory ++ "/" ++ name

end RowTriples.Path
