import RowTriples.Text.Pieces
import RowTriples.Vocabulary
/-!
# Targets of requests

A request names what it asks for by the part of its address behind the host: a path, of which the
steps back have been taken, and a query. Characters that may not stand there are percent-encoded.
-/

namespace RowTriples.Web

def encoded (c : Char) : List Char :=
  (Digest.utf8 (String.singleton c)).flatMap fun b =>
    ['%', (Nat.digitChar (b.toNat / 16)).toUpper, (Nat.digitChar (b.toNat % 16)).toUpper]

/-- Whether a character has to be encoded in any part of a target. -/
def isUnsafe (c : Char) : Bool :=
  c ≤ ' ' || '~' < c || c = '"' || c = '<' || c = '>'

def pathChar (c : Char) : List Char :=
  if isUnsafe c || c = '\x60' || c = '\x7b' || c = '\x7d' then encoded c else [c]

def queryChar (c : Char) : List Char :=
  if isUnsafe c || c = '\'' then encoded c else [c]

def parameterChar (c : Char) : List Char :=
  if c.isAlphanum || c = '*' || c = '-' || c = '.' || c = '_' then [c]
  else if c = ' ' then ['+'] else encoded c

/-- The steps of a path, with those back taken. The last step is kept as the empty one where it is a
step back or to the same place. -/
def normalized (steps : List (List Char)) : List (List Char) → List (List Char)
  | [] => steps.reverse
  | [['.', '.']] => ([] :: steps.tail).reverse
  | [['.']] => ([] :: steps).reverse
  | ['.', '.'] :: others => normalized steps.tail others
  | ['.'] :: others => normalized steps others
  | step :: others => normalized (step :: steps) others

def path (cs : List Char) : List Char :=
  let steps := Text.pieces ['/'] (cs.map fun c => if c = '\\' then '/' else c)
  let steps := if steps.head? = some [] then steps.tail else steps
  (normalized [] steps).flatMap fun step => '/' :: step.flatMap pathChar

def query (parameters : List (String × String)) : List Char :=
  Text.joinWith ['&'] (parameters.map fun (name, value) =>
    name.toList.flatMap parameterChar ++ '=' :: value.toList.flatMap parameterChar)

def behindHost (address : String) : List Char :=
  let cs := address.toList.filter fun c => c ≠ '\t' && c ≠ '\n' && c ≠ '\r'
  let rest :=
    match Text.cut? "://".toList cs with
    | some (_, rest) => rest
    | none => cs
  rest.dropWhile fun c => c ≠ '/' && c ≠ '?' && c ≠ '#' && c ≠ '\\'

/-- The target of a request to an address with parameters, which are added to those of the address.
-/
def target (address : String) (parameters : List (String × String)) : String :=
  let cs := (behindHost address).takeWhile (· ≠ '#')
  let before := cs.takeWhile (· ≠ '?')
  let own := (cs.drop (before.length + 1)).flatMap queryChar
  let all := own ++ (if own.isEmpty || parameters.isEmpty then [] else ['&']) ++ query parameters
  let hasQuery := !all.isEmpty || (parameters.isEmpty && before.length < cs.length)
  String.ofList (path before ++ if hasQuery then '?' :: all else [])

def requestLine (address : String) (parameters : List (String × String)) : String :=
  "GET " ++ target address parameters ++ " HTTP/1.1"

/-- How the program introduces itself. -/
def userAgent : String := "tablegraph/0.3.0-dev"

structure Reply where
  status : Nat
  body : String

def Reply.isFailure (reply : Reply) : Bool :=
  400 ≤ reply.status && reply.status < 600

/-- What a reply brings, if the request has not failed. Two kinds of replies never have a body. -/
def Reply.content? (reply : Reply) : Option String :=
  if reply.isFailure then none
  else if reply.status = 204 || reply.status = 304 then some "" else some reply.body

end RowTriples.Web
