import RowTriples.Digest.Content
import RowTriples.Entries
import RowTriples.Storage.Path
/-!
# File trees

The files that a conversion reads and writes are a map from places to contents. A place is the row
of names that leads to it from the root, so two paths may lead to the same place. A path that does
not begin with a slash begins in the working directory. Writing a file replaces what was there.
Paths that lead out of the tree lead nowhere.
-/

namespace RowTriples

/-- The row of names that leads from the root to a file or directory. -/
abbrev Place := List String

/-- Files and directories below a root. -/
structure FileTree where
  files : List (Place × List UInt8) := []
  /-- The directories apart from the root. -/
  directories : List Place := []
  /-- The working directory. -/
  here : Place := []

namespace FileTree

variable (tree : FileTree)

def isDirectoryAt (place : Place) : Bool :=
  place.isEmpty || tree.directories.contains place

def contentAt? (place : Place) : Option (List UInt8) :=
  tree.files.lookup place

/-- The place that parts of a path lead to from a directory. Every part but the last has to lead to
a directory. -/
def follow? (place : Place) : List String → Option Place
  | [] => some place
  | part :: parts =>
    if !tree.isDirectoryAt place then none
    else if part = "" || part = "." then follow? place parts
    else if part = ".." then if place.isEmpty then none else follow? place.dropLast parts
    else follow? (place ++ [part]) parts

/-- The directory in which a path begins. -/
def start (path : String) : Place :=
  if Text.startsWith "/" path then [] else tree.here

/-- The place that a path leads to. There need not be anything. -/
def place? (path : String) : Option Place :=
  if path.isEmpty then none else tree.follow? (tree.start path) (Path.parts path)

def read? (path : String) : Option (List UInt8) :=
  (tree.place? path).bind tree.contentAt?

/-- The text of the file that a path leads to, if it is UTF-8. -/
def readText? (path : String) : Option String :=
  (tree.read? path).bind fun bytes => String.fromUTF8? ⟨bytes.toArray⟩

def isFile (path : String) : Bool :=
  (tree.read? path).isSome

def putAt (place : Place) (content : List UInt8) : FileTree :=
  { tree with files := (place, content) :: tree.files.filter fun file => file.1 ≠ place }

/-- The tree in which a path leads to a file with the given content, if one can be created. -/
def write? (path : String) (content : List UInt8) : Option FileTree := do
  let place ← tree.place? path
  if tree.isDirectoryAt place then none else some (tree.putAt place content)

/-- The tree with all directories on the way along parts of a path, if they can be created. -/
def makeDirectories? (tree : FileTree) (place : Place) : List String → Option FileTree
  | [] => some tree
  | part :: parts =>
    if part = "" || part = "." then makeDirectories? tree place parts
    else if part = ".." then
      if place.isEmpty then none else makeDirectories? tree place.dropLast parts
    else
      let next := place ++ [part]
      if tree.isDirectoryAt next then makeDirectories? tree next parts
      else if (tree.contentAt? next).isSome then none
      else makeDirectories? { tree with directories := next :: tree.directories } next parts

/-- The tree in which a path leads to a directory, if one can be created. -/
def makeDirectory? (path : String) : Option FileTree :=
  tree.makeDirectories? (tree.start path) (Path.parts path)

/-- The tree in which a path leads to a file with the given content in directories of its own. A
file that cannot be created is left out. -/
def add (path : String) (content : List UInt8) : FileTree :=
  let directories := (Path.parts path).dropLast
  ((tree.makeDirectories? (tree.start path) directories).bind (·.write? path content)).getD tree

/-- The files below the directory that a path leads to, with their paths from there. -/
def filesBelow (path : String) : List (String × List UInt8) :=
  match tree.place? path with
  | none => []
  | some place =>
    tree.files.filterMap fun (other, content) =>
      if place.isPrefixOf other && place.length < other.length then
        some ("/".intercalate (other.drop place.length), content)
      else none

def pathTo (place : Place) : String :=
  "/" ++ "/".intercalate place

/-- The files that are not in an earlier tree with the same content. -/
def changedSince (earlier : FileTree) : List (Place × List UInt8) :=
  tree.files.filter fun (place, content) => earlier.contentAt? place ≠ some content

/-- The tree with the given working directory and nothing else. -/
def inDirectory (path : String) : FileTree :=
  let here := (Path.parts path).filter (· ≠ "")
  { directories := (List.range here.length).map fun n => here.take (n + 1), here }

theorem lookup_filter_ne {place other : Place} (h : other ≠ place)
    (files : List (Place × List UInt8)) :
    (files.filter fun file => file.1 ≠ place).lookup other = files.lookup other := by
  induction files with
  | nil => rfl
  | cons file files ih =>
    obtain ⟨here, content⟩ := file
    by_cases same : here = place
    · subst same
      have apart : (other == here) = false := by simpa using h
      rw [List.filter_cons_of_neg (by simp), ih, List.lookup_cons, apart]
    · rw [List.filter_cons_of_pos (by simpa using same), List.lookup_cons, List.lookup_cons, ih]

@[simp] theorem contentAt?_putAt (place other : Place) (content : List UInt8) :
    (tree.putAt place content).contentAt? other =
      if other = place then some content else tree.contentAt? other := by
  unfold contentAt? putAt
  by_cases h : other = place
  · simp [h]
  · have apart : (other == place) = false := by simpa using h
    rw [if_neg h, List.lookup_cons, apart]
    exact lookup_filter_ne h tree.files

end FileTree

end RowTriples
