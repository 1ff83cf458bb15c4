import RowTriples.Digest.Content
import RowTriples.Text.Pieces
import RowTriples.Text.Blank
/-!
# Names and resources

Templates name classes and properties by bare names, which belong to a namespace, or by absolute
IRIs, which stand for themselves. The names of entities are placed in the namespace in the same
way.
-/

namespace RowTriples

/-- The namespace of bare names, without slashes at its end. -/
structure Vocabulary where
  base : String
  deriving DecidableEq

def defaultNamespace : String := "http://schema.localhost"

/-- The predicate that gives an entity its class. -/
def rdfType : String := "http://www.w3.org/1999/02/22-rdf-syntax-ns#type"

def xsdNamespace : String := "http://www.w3.org/2001/XMLSchema#"

/-- Whether a name is an IRI of its own. -/
def isAbsolute (name : String) : Bool :=
  Text.contains "://" name || Text.startsWith "urn:" name

def iriToken (iri : String) : String :=
  "<" ++ iri ++ ">"

/-- Whether a byte stands for itself in a percent-encoded name. -/
def isUnreserved (b : UInt8) : Bool :=
  let c := Char.ofNat b.toNat
  c.isAlphanum || c = '-' || c = '_' || c = '.' || c = '~'

def encodeByte (b : UInt8) : List Char :=
  if isUnreserved b then [Char.ofNat b.toNat]
  else ['%', (Nat.digitChar (b.toNat / 16)).toUpper, (Nat.digitChar (b.toNat % 16)).toUpper]

/-- The name with every byte that is not unreserved written in hexadecimal. -/
def percentEncoded (name : String) : String :=
  String.ofList ((Digest.utf8 name).flatMap encodeByte)

namespace Vocabulary

/-- The vocabulary of a namespace, whose slashes at the end do not count. -/
def of (namespaceName : String) : Vocabulary :=
  ⟨String.ofList (Text.dropEndWhile (· = '/') namespaceName.toList)⟩

variable (vocabulary : Vocabulary)

def expand (name : String) : String :=
  if isAbsolute name then name else vocabulary.base ++ "/" ++ name

/-- The token of the resource with a name. Bare names are percent-encoded, so that any text forms a
valid IRI. -/
def resource (name : String) : String :=
  if isAbsolute name then iriToken name
  else iriToken (vocabulary.base ++ "/" ++ percentEncoded name)

/-- The name relative to the namespace, or the IRI itself where it lies outside. -/
def localName (iri : String) : String :=
  match (Text.dropStart? vocabulary.base iri).bind (Text.dropStart? "/") with
  | some name => name
  | none => iri

end Vocabulary

end RowTriples
