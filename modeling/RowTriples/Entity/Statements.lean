import RowTriples.Entity.Tree
/-!
# The statements of a row

The statements are written in the order of the entries and their rules; the statements of a repeated
subtemplate stand behind the link to it. What a geocoder contributes comes at the end of its scope,
and only where the scope says nothing about the same predicate of the same subject. Values without a
literal leave a diagnostic instead of a statement, and so do lookups without a match.
-/

namespace RowTriples

/-- A problem with a single value or lookup, which does not keep the row from being expanded. -/
inductive Diagnostic where
  | skippedValue (subject : String) (error : CoercionError)
  | geocodeFailed (subject : String) (error : GeocodeError)
  | geocodeNoMatch (subject : String)
  | geocoderUnavailable (subject : String)
  deriving DecidableEq

def Diagnostic.message (row : Nat) (diagnostic : Diagnostic) : String :=
  let problem :=
    match diagnostic with
    | .skippedValue subject error => "skipped value for " ++ subject ++ ": " ++ error.message
    | .geocodeFailed subject error => "geocoding failed for " ++ subject ++ ": " ++ error.message
    | .geocodeNoMatch subject => "no confident geocoder match for " ++ subject
    | .geocoderUnavailable subject =>
      "geocoding requested for " ++ subject ++ " but no geocoder is configured"
  "row " ++ toString row ++ ": " ++ problem

/-- What statements are written with: the declared ranges and the namespace. -/
structure Language where
  schema : Schema
  vocabulary : Vocabulary

namespace Language

variable (language : Language)

/-- The statements that give a subject an object for each of several predicates. -/
def relate (subject : String) (predicates : List String) (object : String) : List Statement :=
  predicates.map fun predicate => ⟨subject, language.vocabulary.resource predicate, object⟩

def literal (predicate : String) (value : Datum) : Except CoercionError String :=
  Typing.literal language.schema language.vocabulary predicate value

/-- The statements of values, predicate by predicate. Values without a literal have none. -/
def assertValues (subject : String) (predicates : List String) (values : List Datum) :
    List Statement :=
  predicates.flatMap fun predicate => values.filterMap fun value =>
    match language.literal predicate value with
    | .ok object => some ⟨subject, language.vocabulary.resource predicate, object⟩
    | .error _ => none

/-- The diagnostics of values, predicate by predicate. Values with a literal have none. -/
def skipValues (subject : String) (predicates : List String) (values : List Datum) :
    List Diagnostic :=
  predicates.flatMap fun predicate => values.filterMap fun value =>
    match language.literal predicate value with
    | .ok _ => none
    | .error error => some (.skippedValue subject error)

end Language

namespace Lookup

variable (language : Language) (lookup : Lookup)

/-- The token of the entity that the lookup was made for. -/
def subject : String :=
  language.vocabulary.resource lookup.id

/-- The statements that a lookup offers. -/
def candidates : List Statement :=
  match lookup.outcome with
  | .matched feature =>
    feature.statements language.schema language.vocabulary (lookup.subject language)
  | _ => []

/-- The diagnostic of a lookup that offers nothing. -/
def diagnostic? : Option Diagnostic :=
  match lookup.outcome with
  | .unavailable => some (.geocoderUnavailable (lookup.subject language))
  | .failed error => some (.geocodeFailed (lookup.subject language) error)
  | .noMatch => some (.geocodeNoMatch (lookup.subject language))
  | .matched _ => none

end Lookup

/-- Adds those of the candidates whose slot is free when their turn comes. -/
def fillSlots (statements : List Statement) : (candidates : List Statement) → List Statement
  | [] => statements
  | candidate :: candidates =>
    if statements.any (·.sameSlot candidate) then fillSlots statements candidates
    else fillSlots (statements ++ [candidate]) candidates

section Statements

variable (language : Language)

mutual

def Scope.statements : Scope → List Statement
  | .mk _ lookups entities =>
    fillSlots (statementsOfEntities entities) (lookups.flatMap (Lookup.candidates language))

def statementsOfEntities : List Entity → List Statement
  | [] => []
  | entity :: entities => Entity.statements entity ++ statementsOfEntities entities

def Entity.statements : Entity → List Statement
  | .mk id type facts => statementsOfFacts (language.vocabulary.resource id) type facts

def statementsOfFacts (subject type : String) : List Fact → List Statement
  | [] => []
  | fact :: facts => Fact.statements subject type fact ++ statementsOfFacts subject type facts

def Fact.statements (subject type : String) : Fact → List Statement
  | .type => [⟨subject, iriToken rdfType, language.vocabulary.resource type⟩]
  | .link predicates id => language.relate subject predicates (language.vocabulary.resource id)
  | .values predicates values => language.assertValues subject predicates values
  | .repeated predicates occurrences => statementsOfOccurrences subject predicates occurrences

/-- The link to each repetition, followed by its statements. -/
def statementsOfOccurrences (subject : String) (predicates : List String) :
    List (String × Scope) → List Statement
  | [] => []
  | (id, scope) :: occurrences =>
    language.relate subject predicates (language.vocabulary.resource id) ++
      Scope.statements scope ++ statementsOfOccurrences subject predicates occurrences

end

mutual

/-- The diagnostics of a scope: those of its own lookups, then those of its entities. -/
def Scope.diagnostics : Scope → List Diagnostic
  | .mk _ lookups entities =>
    lookups.filterMap (Lookup.diagnostic? language) ++ diagnosticsOfEntities entities

def diagnosticsOfEntities : List Entity → List Diagnostic
  | [] => []
  | entity :: entities => Entity.diagnostics entity ++ diagnosticsOfEntities entities

def Entity.diagnostics : Entity → List Diagnostic
  | .mk id _ facts => diagnosticsOfFacts (language.vocabulary.resource id) facts

def diagnosticsOfFacts (subject : String) : List Fact → List Diagnostic
  | [] => []
  | fact :: facts => Fact.diagnostics subject fact ++ diagnosticsOfFacts subject facts

def Fact.diagnostics (subject : String) : Fact → List Diagnostic
  | .type | .link _ _ => []
  | .values predicates values => language.skipValues subject predicates values
  | .repeated _ occurrences => diagnosticsOfOccurrences occurrences

def diagnosticsOfOccurrences : List (String × Scope) → List Diagnostic
  | [] => []
  | (_, scope) :: occurrences => Scope.diagnostics scope ++ diagnosticsOfOccurrences occurrences

end

end Statements

end RowTriples
