import RowTriples.Document.Decode
/-!
# Outlines of templates

A template document is first given types without looking at the meaning of its parts: entries are
pairs of a class and an object, bindings are any values, and the pairs of the iteration are kept as
they are. All errors about the types of a document, at any depth, come before those about its
meaning.
-/

namespace RowTriples

/-- The options of a scope as they are written. -/
structure OptionsOutline where
  hashedIds : Bool := false
  lookup : Bool := false
  lookupClasses : Option (List String) := none

/-- A template document with the types of its parts. -/
structure Outline where
  entries : List (String × Entries Json) := []
  subtemplates : List (String × Outline) := []
  bindings : Entries Json := []
  options : Option OptionsOutline := none
  iterations : List (String × String) := []

namespace OptionsOutline

def shape : RecordShape :=
  ⟨"RawOptions",
    [{ name := "HASHED_IDS", optional := true }, { name := "GEOLOOKUP", optional := true },
      { name := "GEOLOOKUP_CLASSES", optional := true }]⟩

def ofDocument (positional : Bool) (document : Document) : Decoded OptionsOutline :=
  document.asRecord positional shape
    (fun i d (options : OptionsOutline) => do
      if i = 0 then return { options with hashedIds := ← d.asBool }
      else if i = 1 then return { options with lookup := ← d.asBool }
      else return { options with lookupClasses := ← d.asOption (Document.asList Document.asText) })
    {}

end OptionsOutline

namespace Outline

def shape : RecordShape :=
  ⟨"RawSpec", [{ name := "TEMPLATE" }, { name := "SUBTEMPLATES", optional := true },
    { name := "BIND", optional := true }, { name := "OPTIONS", optional := true },
    { name := "ITERABLE", optional := true }]⟩

/-- The outline of a document that has no more levels than the fuel. -/
def decode (positional : Bool) : (fuel : Nat) → Document → Decoded Outline
  | 0, document => document.mismatch "struct RawSpec"
  | fuel + 1, document =>
    document.asRecord positional shape
      (fun i d (outline : Outline) => do
        if i = 0 then
          let entries ← d.asList
            (Document.asPair Document.asText (Document.asNamed Document.asJson))
          return { outline with entries }
        else if i = 1 then
          return { outline with subtemplates := ← d.asNamed (decode positional fuel) }
        else if i = 2 then return { outline with bindings := ← d.asNamed Document.asJson }
        else if i = 3 then
          return { outline with options := ← d.asOption (OptionsOutline.ofDocument positional) }
        else
          let iterations ← d.asList (Document.asPair Document.asText Document.asText)
          return { outline with iterations })
      {}

def ofDocument (positional : Bool) (document : Document) : Decoded Outline :=
  decode positional document.depth document

end Outline

end RowTriples
