import RowTriples.Settings.Load
import RowTriples.Text.Blank
/-!
# Variables from a file

A file may add variables to the environment, one assignment a line. A value may be put between
quotation marks, of which the double ones let the line go on after its end, and a dollar sign stands
for the value of another variable. Variables that are already there keep their values. The first
line that is no assignment ends the reading; the assignments in front of it count.
-/

namespace RowTriples.Variables

/-! ## Lines -/

/-- What the end of a line would mean for an assignment. -/
inductive LineState where
  | open
  /-- Behind a blank, where a comment may begin. -/
  | blank
  | escaped
  | single
  | singleEscaped
  | double
  | doubleEscaped
  deriving DecidableEq

def LineState.next (c : Char) : LineState → LineState
  | .open =>
    if c = '\\' then .escaped else if c = '"' then .double else if c = '\'' then .single
    else if Text.isBlank c && c ≠ '\n' && c ≠ '\r' then .blank else .open
  | .blank =>
    if c = '\\' then .escaped else if c = '"' then .double else if c = '\'' then .single else .open
  | .escaped => .open
  | .single => if c = '\\' then .singleEscaped else if c = '\'' then .open else .single
  | .singleEscaped => .single
  | .double => if c = '\\' then .doubleEscaped else if c = '"' then .open else .double
  | .doubleEscaped => .double

/-- The assignments of a text as they are written, none where quotation marks are left open or the
text ends behind a blank. The text of the present one is given newest first. A line that begins with
a number sign is dropped, and so is a comment behind a blank. -/
def linesFrom (state : LineState) (inComment : Bool) (line : List Char) :
    List Char → List (Option (List Char))
  | [] =>
    if inComment || state = .open then [some line.reverse] else [none]
  | c :: cs =>
    if inComment then
      if c = '\n' then some line.reverse :: linesFrom .open false [] cs
      else linesFrom state true line cs
    else if c = '#' && (state = .blank || (state = .open && line.all Text.isBlank)) then
      linesFrom .open true line cs
    else
      let after := state.next c
      if c = '\n' && after = .open then some line.reverse :: linesFrom .open false [] cs
      else linesFrom after false (c :: line) cs

/-! ## Values -/

/-- What a dollar sign has begun. -/
inductive Reference where
  | none
  | bare
  | braced
  deriving DecidableEq

/-- A value that is being read. Its text and the name of a reference are given newest first. -/
structure Value where
  text : List Char := []
  single : Bool := false
  double : Bool := false
  escaped : Bool := false
  /-- Whether only a comment may follow. -/
  ended : Bool := false
  reference : Reference := .none
  name : List Char := []

namespace Value

variable (environment : Environment) (v : Value)

/-- The value with what the reference stands for. -/
def resolved : Value :=
  let found := (Entries.get? (String.ofList v.name.reverse) environment).getD ""
  { v with text := found.toList.reverse ++ v.text, name := [], reference := .none }

def push (c : Char) : Value :=
  { v with text := c :: v.text }

/-- The value behind a character inside a reference. -/
def refer (c : Char) : Value :=
  if c.isAlphanum then { v with name := c :: v.name }
  else if v.reference = .braced then
    if c = '\x7d' then v.resolved environment else { v with name := c :: v.name }
  else if c = '\x7b' && v.name.isEmpty then { v with reference := .braced }
  else if c = '$' then { v.resolved environment with reference := .bare }
  else (v.resolved environment).push c

/-- The value behind a character outside of escapes, references and single quotation marks. -/
def take (c : Char) : Value :=
  if c = '$' then { v with reference := .bare }
  else if v.double then
    if c = '"' then { v with double := false }
    else if c = '\\' then { v with escaped := true }
    else v.push c
  else if c = '\'' then { v with single := true }
  else if c = '"' then { v with double := true }
  else if c = '\\' then { v with escaped := true }
  else if c = ' ' || c = '\t' then { v with ended := true }
  else v.push c

def read? (v : Value) : List Char → Option String
  | [] =>
    if v.reference = .braced || v.single || v.double then none
    else some (String.ofList (v.resolved environment).text.reverse)
  | c :: cs =>
    if v.ended then
      if c = ' ' || c = '\t' then read? v cs
      else if c = '#' then read? v []
      else none
    else if v.escaped then
      if c ∈ ['\\', '\'', '"', '$', ' '] then read? { v.push c with escaped := false } cs
      else if c = 'n' then read? { v.push '\n' with escaped := false } cs
      else none
    else if v.single then
      if c = '\'' then read? { v with single := false } cs else read? (v.push c) cs
    else if v.reference ≠ .none then read? (v.refer environment c) cs
    else read? (v.take c) cs

end Value

/-! ## Assignments -/

def isNameStart (c : Char) : Bool :=
  c.isAlpha || c = '_'

def isNamePart (c : Char) : Bool :=
  c.isAlphanum || c = '_' || c = '.'

/-- A name and what follows it and the blanks behind it. -/
def name? (cs : List Char) : Option (String × List Char) :=
  match cs with
  | c :: _ =>
    if isNameStart c then
      some (String.ofList (cs.takeWhile isNamePart),
        (cs.dropWhile isNamePart).dropWhile Text.isBlank)
    else none
  | [] => none

/-- What follows the equals sign of an assignment, with its name. The word `export` may stand in
front of the name, and it may be the name. -/
def assigned? (cs : List Char) : Option (String × List Char) := do
  let (name, rest) ← name? cs
  match rest with
  | '=' :: rest => some (name, rest)
  | _ =>
    if name = "export" then do
      let (name, rest) ← name? rest
      match rest with
      | '=' :: rest => some (name, rest)
      | _ => none
    else none

/-- The environment with the assignment of a line, none where it is malformed. -/
def assign? (environment : Environment) (line : List Char) : Option Environment :=
  let line := Text.trim line
  if line.isEmpty || line.head? = some '#' then some environment
  else do
    let (name, rest) ← assigned? line
    let rest := rest.dropWhile Text.isBlank
    let value ←
      if rest.isEmpty || rest.head? = some '#' then some ""
      else Value.read? environment {} rest
    return if Entries.has name environment then environment
      else Entries.put name value environment

def assignAll (environment : Environment) : List (Option (List Char)) → Environment
  | [] => environment
  | line :: lines =>
    match line.bind (assign? environment) with
    | some environment => assignAll environment lines
    | none => environment

/-- The environment with the assignments of a text, in front of which a mark may stand. -/
def addTo (environment : Environment) (text : String) : Environment :=
  let cs :=
    match text.toList with
    | '\ufeff' :: cs => cs
    | cs => cs
  assignAll environment (linesFrom .open false [] cs)

/-! ## Files -/

/-- The lines of a file, each with the byte that ends it. The beginning of the present one is given
newest first. -/
def byteLinesFrom (line : List UInt8) : List UInt8 → List (List UInt8)
  | [] => [line.reverse]
  | b :: bs =>
    if b = 0x0a then (b :: line).reverse :: byteLinesFrom [] bs else byteLinesFrom (b :: line) bs

/-- The text of a file up to the first line that is not UTF-8. -/
def readableText (bytes : List UInt8) : String :=
  let lines := (byteLinesFrom [] bytes).map fun line => String.fromUTF8? ⟨line.toArray⟩
  String.join ((lines.takeWhile (·.isSome)).filterMap id)

end RowTriples.Variables
