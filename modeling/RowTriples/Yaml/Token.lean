/-!
# Tokens

A YAML text is read as a row of tokens in which the layout has been made explicit: where a block
begins and ends by its indentation there is a token, and in front of every key there is one.
-/

namespace RowTriples.Yaml

inductive Style where
  | plain
  /-- As a block of lines that are kept. -/
  | literal
  /-- In any other way. -/
  | enclosed
  deriving DecidableEq

/-- A token of a text whose layout has been made explicit. -/
inductive Token where
  /-- The version directive. -/
  | version
  /-- A directive that lets a handle stand for the beginning of a tag. -/
  | handle (name start : String)
  | documentStart
  | documentEnd
  | blockSequence
  | blockMap
  | blockEnd
  | flowSequence
  | flowSequenceEnd
  | flowMap
  | flowMapEnd
  /-- The hyphen in front of an item. -/
  | item
  | comma
  | key
  /-- The colon in front of a value. -/
  | value
  | alias (name : String)
  | anchor (name : String)
  | tag (handle rest : String)
  | scalar (style : Style) (text : String)
  deriving DecidableEq

end RowTriples.Yaml
