import RowTriples.Statement
import RowTriples.Text.Pieces
import RowTriples.Text.Quoted
import RowTriples.Vocabulary
/-!
# N-Triples

Literals are quoted and escaped; a typed literal carries the IRI of its datatype. A list of
statements is written one statement a line. A single token that does not fit its place makes the
whole list unwritable, and the error tells the first such token.
-/

namespace RowTriples.NTriples

/-- A character as it stands in a literal. -/
def escaped (c : Char) : List Char :=
  if c = '\\' then ['\\', '\\']
  else if c = '"' then ['\\', '"']
  else if c = '\n' then ['\\', 'n']
  else if c = '\r' then ['\\', 'r']
  else if c = '\t' then ['\\', 't']
  else [c]

def plainLiteral (text : String) : String :=
  String.ofList ('"' :: text.toList.flatMap escaped ++ ['"'])

def typedLiteral (text datatype : String) : String :=
  plainLiteral text ++ "^^" ++ iriToken datatype

def isForbiddenInIri (c : Char) : Bool :=
  c ≤ ' ' || c ∈ ['<', '>', '"', '\x7b', '\x7d', '|', '^', '\x60', '\\']

/-- Whether a token is an IRI in angle brackets. -/
def isIri (token : String) : Bool :=
  match token.toList with
  | '<' :: c :: rest =>
    match (c :: rest).reverse with
    | '>' :: inside => !inside.isEmpty && !inside.any isForbiddenInIri
    | _ => false
  | _ => false

inductive Place where
  | subject
  | predicate
  | object
  deriving DecidableEq

inductive Fault where
  | empty
  | lineBreak
  | shape
  deriving DecidableEq

/-- A token that cannot be written, in the statement with the given number. -/
structure RenderError where
  index : Nat
  place : Place
  token : String
  fault : Fault
  deriving DecidableEq

def Place.name : Place → String
  | .subject => "subject"
  | .predicate => "predicate"
  | .object => "object"

def Fault.reason : Fault → String
  | .empty => "empty"
  | .lineBreak => "contains a line break"
  | .shape => "not an IRI, blank node or literal"

def RenderError.message (e : RenderError) : String :=
  s!"Statement {e.index}: {e.place.name} token {Text.quoted e.token} is invalid ({e.fault.reason})"

/-- What is wrong with a token at its place, if anything. -/
def fault? (place : Place) (token : String) : Option Fault :=
  if token.isEmpty then some .empty
  else if token.toList.any fun c => c = '\n' || c = '\r' then some .lineBreak
  else if isIri token || Text.startsWith "_:" token then none
  else if place = .object && Text.startsWith "\"" token then none
  else some .shape

def check (index : Nat) (place : Place) (token : String) : Except RenderError Unit :=
  match fault? place token with
  | none => .ok ()
  | some fault => .error ⟨index, place, token, fault⟩

/-- Refuses a statement one of whose tokens does not fit; the first one is told. -/
def checkStatement (index : Nat) (s : Statement) : Except RenderError Unit := do
  check index .subject s.subject
  check index .predicate s.predicate
  check index .object s.object

def line (s : Statement) : String :=
  s.subject ++ " " ++ s.predicate ++ " " ++ s.object ++ " .\n"

/-- The lines of statements, the first of which has the given number. -/
def renderFrom (index : Nat) : List Statement → Except RenderError String
  | [] => .ok ""
  | s :: statements => do
    checkStatement index s
    let rest ← renderFrom (index + 1) statements
    return line s ++ rest

/-- The lines of all statements, if every token fits. -/
def render (statements : List Statement) : Except RenderError String :=
  renderFrom 0 statements

/-- The lines of all statements, or nothing if a token does not fit. -/
def renderOrNothing (statements : List Statement) : String :=
  match render statements with
  | .ok text => text
  | .error _ => ""

end RowTriples.NTriples
