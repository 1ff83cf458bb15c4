import RowTriples.Address.Response
import RowTriples.Identifier.Resolution
/-!
# The entities of a row

A template instantiated for a row is a tree. A scope holds its entities and the address lookups made
for them; an entity holds the facts of its rules, in their order; and the fact of a repeated
subtemplate holds one scope for every element. Everything that depends on the row and on the choice
of identifiers is settled in the tree, so the statements of a row are a function of it alone.
-/

namespace RowTriples

inductive LookupOutcome where
  /-- There is no geocoder to ask. -/
  | unavailable
  | failed (error : GeocodeError)
  | noMatch
  | matched (feature : Feature)

structure Lookup where
  /-- The identifier of the entity. -/
  id : String
  query : AddressQuery
  outcome : LookupOutcome

mutual

/-- A template, or a subtemplate, instantiated for a row. -/
inductive Scope where
  | mk (identifiers : Identifiers) (lookups : List Lookup) (entities : List Entity)

inductive Entity where
  | mk (id : String) (type : String) (facts : List Fact)

/-- What a rule says about an entity. -/
inductive Fact where
  /-- The class of the entity. -/
  | type
  /-- A link to the entity with an identifier. -/
  | link (predicates : List String) (id : String)
  /-- The values of a column, none of which is empty. -/
  | values (predicates : List String) (values : List Datum)
  /-- The repetitions of a subtemplate, each with the identifier of the entity that is linked to. -/
  | repeated (predicates : List String) (occurrences : List (String × Scope))

end

namespace Scope

def identifiers : Scope → Identifiers
  | .mk identifiers _ _ => identifiers

def lookups : Scope → List Lookup
  | .mk _ lookups _ => lookups

def entities : Scope → List Entity
  | .mk _ _ entities => entities

end Scope

namespace Entity

def id : Entity → String
  | .mk id _ _ => id

def type : Entity → String
  | .mk _ type _ => type

def facts : Entity → List Fact
  | .mk _ _ facts => facts

end Entity

end RowTriples
