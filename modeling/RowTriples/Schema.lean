import RowTriples.Json.Parser
import RowTriples.Vocabulary
/-!
# Declared ranges of properties

A schema is a linked-data document whose graph lists definitions of properties. A definition with a
range edge declares the range of its property; both are kept as names relative to the namespace. A
document that is no such schema declares nothing.
-/

namespace RowTriples

/-- The ranges that are declared for properties, by local name. -/
structure Schema where
  ranges : Entries String

namespace Schema

def empty : Schema := ⟨[]⟩

/-- The schema with the given declarations; of several for one property the last one counts. -/
def ofList (ranges : List (String × String)) : Schema :=
  ⟨Entries.ofList ranges⟩

def declared? (schema : Schema) (property : String) : Option String :=
  Entries.get? property schema.ranges

def size (schema : Schema) : Nat :=
  schema.ranges.length

mutual

/-- The name of a range as it is written at an edge: an object with an identifier, a bare text, or
a list of such, whose first usable item counts. -/
def rangeName? : Json → Option String
  | .string name => some name
  | .object fields => (Entries.get? "@id" fields).bind Json.string?
  | .array items => firstRangeName? items
  | _ => none

/-- The first usable range of a list. -/
def firstRangeName? : List Json → Option String
  | [] => none
  | item :: items => (rangeName? item).or (firstRangeName? items)

end

/-- The declaration of a node of the graph, if it is a definition with a usable range. -/
def declaration? (vocabulary : Vocabulary) (node : Json) : Option (String × String) := do
  let name ← (node.field? "@id").bind Json.string?
  let range ← (node.field? (vocabulary.expand "rangeIncludes")).bind rangeName?
  return (vocabulary.localName name, vocabulary.localName range)

def ofDocument (vocabulary : Vocabulary) (document : Json) : Schema :=
  match (document.field? "@graph").bind Json.items? with
  | some nodes => ofList (nodes.filterMap (declaration? vocabulary))
  | none => empty

/-- The schema of a text. A text that is no JSON declares nothing. -/
def ofText (vocabulary : Vocabulary) (text : String) : Schema :=
  match Json.parse? text with
  | some document => ofDocument vocabulary document
  | none => empty

end Schema

end RowTriples
