import RowTriples.Json.Basic
/-!
# Documents

Templates, run configurations and parameter blocks arrive as JSON values, JSON texts or YAML
texts. `Document` is what the three have in common before a document is given types: nested maps
and sequences, with fields in written order and repeated fields kept. A YAML scalar without
quotation marks stays `plain` until its reader says what it wants, because the same characters may
be taken as text or as a number. The same holds of a tag in front of a node: a reader who expects a
kind of value looks through it, and only one who takes any value obeys it.
-/

namespace RowTriples

/-- What a tag asks of a node. -/
inductive Tag where
  | bool
  | int
  | float
  | null
  /-- A tag of the text's own. -/
  | own (name : String)
  /-- Any other tag, under which a scalar is text. -/
  | other
  deriving DecidableEq

/-- A document that has been read but not yet given types. -/
inductive Document where
  | null
  | bool (value : Bool)
  | number (value : Json.Number)
  | text (value : String)
  /-- A scalar whose kind is decided by what is expected of it. -/
  | plain (value : String)
  /-- Something that was written correctly but has no value: it may stand where it is ignored and
  fails where it is used. -/
  | unusable
  | sequence (items : List Document)
  | map (entries : List (String × Document))
  /-- A node under a tag; the node itself has none. -/
  | tagged (tag : Tag) (content : Document)

namespace Document

instance : Inhabited Document := ⟨.null⟩

/-- The document without the tag in front of it. -/
def content : Document → Document
  | .tagged _ document => document
  | document => document

mutual

def ofJson : Json → Document
  | .null => .null
  | .bool value => .bool value
  | .number value => .number value
  | .string value => .text value
  | .array items => .sequence (ofItems items)
  | .object fields => .map (ofFields fields)

def ofItems : List Json → List Document
  | [] => []
  | item :: items => ofJson item :: ofItems items

def ofFields : List (String × Json) → List (String × Document)
  | [] => []
  | (name, value) :: fields => (name, ofJson value) :: ofFields fields

end

end Document

end RowTriples
