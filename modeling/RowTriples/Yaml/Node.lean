import RowTriples.Document.Scalar
import RowTriples.Document.Value
import RowTriples.Entries
import RowTriples.Yaml.Layout
/-!
# Documents in YAML

The tokens of a text are put together to a document. What an anchor marks may be used again by its
alias; inside of itself it has no value. The keys of a map are scalars, and a map with another key
has no value either.
-/

namespace RowTriples

namespace Yaml

/-- What is left to be read, and what the anchors mark. -/
structure Reader where
  tokens : List Token
  anchors : List (String × Document) := []

abbrev Reading := StateT Reader Option

namespace Reading

def peek : Reading (Option Token) := do
  return (← get).tokens.head?

def skip : Reading Unit :=
  modify fun r => { r with tokens := r.tokens.tail }

def isAt (tokens : List Token) : Reading Bool := do
  return (← peek).any tokens.contains

/-- Leaves the given token behind, which has to be next. -/
def expect (token : Token) : Reading Unit := do
  if ← isAt [token] then skip else failure

def mark (anchor : Option String) (document : Document) : Reading Unit :=
  match anchor with
  | some name => modify fun r => { r with anchors := (name, document) :: r.anchors }
  | none => pure ()

/-- The anchor and the tag in front of a node, in either order. -/
def properties : Reading (Option String × Option (String × String)) := do
  match ← peek with
  | some (.anchor name) =>
    skip
    match ← peek with
    | some (.tag handle rest) =>
      skip
      return (some name, some (handle, rest))
    | _ => return (some name, none)
  | some (.tag handle rest) =>
    skip
    match ← peek with
    | some (.anchor name) =>
      skip
      return (some name, some (handle, rest))
    | _ => return (none, some (handle, rest))
  | _ => return (none, none)

end Reading

/-- The beginnings of tags that handles stand for. -/
abbrev Handles := List (String × String)

/-- The tags of the core types, and the handles that always have a meaning. -/
def coreTag (name : String) : String := "tag:yaml.org,2002:" ++ name

def defaultHandles : Handles := [("!", "!"), ("!!", coreTag "")]

def fullTag? (handles : Handles) : String × String → Option String
  | ("", rest) => some rest
  | (handle, rest) => (handles.lookup handle).map (· ++ rest)

/-- What a tag with the given full text asks for. -/
def tagOf (text : String) : Tag :=
  if text = coreTag "bool" then .bool
  else if text = coreTag "int" then .int
  else if text = coreTag "float" then .float
  else if text = coreTag "null" then .null
  else
    match text.toList with
    | ['!'] => .own "!"
    | '!' :: name => .own (String.ofList name)
    | _ => .other

def under (tag : Option String) (document : Document) : Document :=
  match tag with
  | some text => .tagged (tagOf text) document
  | none => document

/-- The document of a scalar. The lines of a block count as a plain scalar where the tag asks for a
truth value or an integer, and a mere exclamation mark is no tag. -/
def scalarOf (tag : Option String) (style : Style) (text : String) : Document :=
  match tag, style with
  | none, .plain | some "!", .plain => .plain text
  | none, _ | some "!", _ => .text text
  | some tag, .plain => under (some tag) (.plain text)
  | some tag, .literal =>
    under (some tag) (if tagOf tag = .bool ∨ tagOf tag = .int then .plain text else .text text)
  | some tag, .enclosed => under (some tag) (.text text)

def mapOf (entries : List (Document × Document)) : Document :=
  let key? : Document → Option String
    | .plain text | .text text => some text
    | _ => none
  match entries.mapM fun (key, value) => (key? key.content).map (·, value) with
  | some entries => .map entries
  | none => .unusable

namespace Reading

/-- A node that is not there. -/
def missing : Document := .plain ""

mutual

/-- A node. Blocks may stand only where `block` holds, and items that are not indented further than
the key in front of them only where `level` holds. The fuel bounds the number of steps. -/
def node (handles : Handles) : (fuel : Nat) → (block level : Bool) → Reading Document
  | 0, _, _ => failure
  | fuel + 1, block, level => do
    match ← peek with
    | some (.alias name) =>
      skip
      match (← get).anchors.lookup name with
      | some document => return document
      | none => failure
    | _ =>
      let (anchor, tag) ← properties
      let tag ← tag.mapM fun tag => (fullTag? handles tag : Option String)
      mark anchor .unusable
      let document ←
        match ← peek with
        | some (.scalar style text) =>
          skip
          pure (scalarOf tag style text)
        | some .flowSequence =>
          skip
          under tag <$> .sequence <$> flowItems handles fuel true
        | some .flowMap =>
          skip
          under tag <$> mapOf <$> flowEntries handles fuel true
        | some .item =>
          if level then under tag <$> .sequence <$> levelItems handles fuel
          else if anchor.isSome || tag.isSome then pure (under tag missing)
          else failure
        | some .blockSequence =>
          if block then
            skip
            under tag <$> .sequence <$> blockItems handles fuel
          else if anchor.isSome || tag.isSome then pure (under tag missing)
          else failure
        | some .blockMap =>
          if block then
            skip
            under tag <$> mapOf <$> blockEntries handles fuel
          else if anchor.isSome || tag.isSome then pure (under tag missing)
          else failure
        | _ => if anchor.isSome || tag.isSome then pure (under tag missing) else failure
      mark anchor document
      return document

/-- A node in a block, which is missing in front of the given tokens. -/
def nodeUnless (handles : Handles) : (fuel : Nat) → (stops : List Token) → (block level : Bool) →
    Reading Document
  | 0, _, _, _ => failure
  | fuel + 1, stops, block, level => do
    if ← isAt stops then return missing else node handles fuel block level

def blockItems (handles : Handles) : (fuel : Nat) → Reading (List Document)
  | 0 => failure
  | fuel + 1 => do
    match ← peek with
    | some .item =>
      skip
      let item ← nodeUnless handles fuel [.item, .blockEnd] true false
      return item :: (← blockItems handles fuel)
    | some .blockEnd =>
      skip
      return []
    | _ => failure

/-- Items that stand at the indentation of the map around them. -/
def levelItems (handles : Handles) : (fuel : Nat) → Reading (List Document)
  | 0 => failure
  | fuel + 1 => do
    match ← peek with
    | some .item =>
      skip
      let item ← nodeUnless handles fuel [.item, .key, .value, .blockEnd] true false
      return item :: (← levelItems handles fuel)
    | _ => return []

def blockEntries (handles : Handles) : (fuel : Nat) → Reading (List (Document × Document))
  | 0 => failure
  | fuel + 1 => do
    match ← peek with
    | some .key =>
      skip
      let stops := [Token.key, .value, .blockEnd]
      let key ← nodeUnless handles fuel stops true true
      if ← isAt [.value] then
        skip
        let value ← nodeUnless handles fuel stops true true
        return (key, value) :: (← blockEntries handles fuel)
      else return (key, missing) :: (← blockEntries handles fuel)
    | some .blockEnd =>
      skip
      return []
    | _ => failure

def flowValue (handles : Handles) : (fuel : Nat) → (close : Token) → Reading Document
  | 0, _ => failure
  | fuel + 1, close => do
    if ← isAt [.value] then
      skip
      nodeUnless handles fuel [.comma, close] false false
    else return missing

/-- The items between brackets. An item may be a map of a single key. -/
def flowItems (handles : Handles) : (fuel : Nat) → (first : Bool) → Reading (List Document)
  | 0, _ => failure
  | fuel + 1, first => do
    if ← isAt [.flowSequenceEnd] then
      skip
      return []
    else
      if !first then expect .comma
      if ← isAt [.flowSequenceEnd] then
        skip
        return []
      else if ← isAt [.key] then
        skip
        let key ←
          if ← isAt [.value, .comma, .flowSequenceEnd] then
            skip
            pure missing
          else node handles fuel false false
        let value ← flowValue handles fuel .flowSequenceEnd
        return mapOf [(key, value)] :: (← flowItems handles fuel false)
      else
        let item ← node handles fuel false false
        return item :: (← flowItems handles fuel false)

def flowEntries (handles : Handles) : (fuel : Nat) → (first : Bool) →
    Reading (List (Document × Document))
  | 0, _ => failure
  | fuel + 1, first => do
    if ← isAt [.flowMapEnd] then
      skip
      return []
    else
      if !first then expect .comma
      if ← isAt [.flowMapEnd] then
        skip
        return []
      else if ← isAt [.key] then
        skip
        let key ← nodeUnless handles fuel [.value, .comma, .flowMapEnd] false false
        let value ← flowValue handles fuel .flowMapEnd
        return (key, value) :: (← flowEntries handles fuel false)
      else
        let key ← node handles fuel false false
        return (key, missing) :: (← flowEntries handles fuel false)

end

/-- The directives in front of a document, of which each may be there once. -/
def directives : List Token → Option (Handles × List Token)
  | .handle name start :: tokens => do
    let (handles, rest) ← directives tokens
    if (handles.lookup name).isSome then none else some ((name, start) :: handles, rest)
  | .version :: tokens => if tokens.contains .version then none else directives tokens
  | tokens => some ([], tokens)

/-- The only document of a text. A text without any tokens has an empty one. -/
def document (fuel : Nat) : Reading Document := do
  let tokens := (← get).tokens
  let (declared, rest) ← directives tokens
  let handles := declared ++ defaultHandles
  set (Reader.mk rest [])
  let document ←
    match ← peek with
    | some .documentStart =>
      skip
      match ← peek with
      | none | some .documentEnd => pure missing
      | _ => node handles fuel true false
    | next =>
      if rest.length < tokens.length then failure
      else if next.isNone then pure missing
      else node handles fuel true false
  modify fun r => { r with tokens := r.tokens.dropWhile (· = .documentEnd) }
  if (← peek).isNone then return document else failure

end Reading

end Yaml

def Document.maxDepth : Nat := 128

/-- The document of a YAML text, which holds exactly one. -/
def Document.ofYaml? (text : String) : Option Document := do
  let tokens ← Yaml.Token.ofText? text.toList
  let (document, _) ← (Yaml.Reading.document (4 * tokens.length + 4)).run { tokens := tokens }
  if document.depth ≤ maxDepth then return document else none

end RowTriples
