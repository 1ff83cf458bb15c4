import RowTriples.Yaml.Scalar
import RowTriples.Yaml.Token
/-!
# Making the layout explicit

The reader goes through a text from left to right and keeps the indentations of the blocks that are
open. A word that stands further right than the innermost block may open a new one, and a word that
stands further left closes those it is not inside of. Outside brackets a key is recognized late, by
the colon behind it: until then the reader remembers where it may have begun, and puts the token
for the key there. Such a place is forgotten at the end of its line and after 1024 characters.
-/

namespace RowTriples.Yaml

/-- A place where a key may have begun. -/
structure Candidate where
  /-- Whether nothing but a key may stand there. -/
  required : Bool
  /-- The number of tokens in front of it. -/
  place : Nat
  start : Glyph

def Candidate.reach : Nat := 1024

def Candidate.reaches (candidate : Candidate) (here : Glyph) : Bool :=
  candidate.start.line = here.line && here.index ≤ candidate.start.index + reach

/-- What has been read of a text, and what is left. -/
structure Layout where
  rest : List Glyph
  /-- The tokens, newest first. -/
  tokens : List Token := []
  count : Nat := 0
  /-- The indentations of the open blocks, innermost first. -/
  indents : List Nat := []
  candidate : Option Candidate := none
  /-- The candidates around the open brackets and braces, innermost first. -/
  outer : List (Option Candidate) := []
  /-- Whether a key may begin here. -/
  keyAllowed : Bool := true

namespace Layout

variable (s : Layout)

def inFlow : Bool := !s.outer.isEmpty

def add (token : Token) : Layout :=
  { s with tokens := token :: s.tokens, count := s.count + 1 }

/-- Puts a token behind the first `place` tokens. -/
def insert (place : Nat) (token : Token) : Layout :=
  let newer := s.count - place
  { s with
    tokens := s.tokens.take newer ++ token :: s.tokens.drop newer
    count := s.count + 1 }

def goto (rest : List Glyph) : Layout :=
  { s with rest := rest }

def allowKey (allowed : Bool) : Layout :=
  { s with keyAllowed := allowed }

/-- Closes the blocks whose indentation satisfies `closed`. -/
def closeWhile (closed : Nat → Bool) : Layout :=
  if s.inFlow then s
  else
    let ended := s.indents.takeWhile closed
    { s with
      tokens := List.replicate ended.length .blockEnd ++ s.tokens
      count := s.count + ended.length
      indents := s.indents.drop ended.length }

/-- Opens a block at a column that lies further right than the innermost block. -/
def openBlock (column place : Nat) (token : Token) : Layout :=
  if s.inFlow || s.indents.head?.any (column ≤ ·) then s
  else { s.insert place token with indents := column :: s.indents }

/-- Gives up the candidate of the innermost level. -/
def dropCandidate : Option Layout :=
  if s.candidate.any (·.required) then none else some { s with candidate := none }

/-- Gives up all candidates that do not reach the given place. -/
def dropStale (here : Glyph) : Option Layout := do
  let keep : Option Candidate → Option (Option Candidate)
    | none => some none
    | some c =>
      if c.reaches here then some (some c) else if c.required then none else some none
  return { s with candidate := ← keep s.candidate, outer := ← s.outer.mapM keep }

/-- Takes the given place as one where a key may begin, if it may. -/
def markCandidate (here : Glyph) : Option Layout :=
  if s.keyAllowed then do
    let required := !s.inFlow && s.indents.head? = some here.column
    let s ← s.dropCandidate
    return { s with candidate := some ⟨required, s.count, here⟩ }
  else some s

/-- Skips blanks, comments and line breaks. A tab may not stand where a key may begin. -/
def skipGap (inFlow allowed inComment : Bool) : List Glyph → Bool × List Glyph
  | [] => (allowed, [])
  | g :: gs =>
    if isBreak g.char then skipGap inFlow (allowed || !inFlow) false gs
    else if g.char = endMark then (allowed, g :: gs)
    else if inComment then skipGap inFlow allowed true gs
    else if g.char = ' ' || (g.char = '\t' && (inFlow || !allowed)) then
      skipGap inFlow allowed false gs
    else if g.char = '\ufeff' && g.index = 0 then skipGap inFlow allowed false gs
    else if g.char = '#' then skipGap inFlow allowed true gs
    else (allowed, g :: gs)

/-! ## Tokens of one kind -/

def openFlow (here : Glyph) (rest : List Glyph) (token : Token) : Option Layout := do
  let s ← s.markCandidate here
  return { s.add token with
    rest := rest, candidate := none, outer := s.candidate :: s.outer, keyAllowed := true }

def closeFlow (rest : List Glyph) (token : Token) : Option Layout := do
  let s ← s.dropCandidate
  let s :=
    match s.outer with
    | [] => s
    | candidate :: outer => { s with candidate := candidate, outer := outer }
  return (s.add token).goto rest |>.allowKey false

def readComma (rest : List Glyph) : Option Layout := do
  let s ← s.dropCandidate
  return (s.add .comma).goto rest |>.allowKey true

/-- The hyphen in front of an item. -/
def readItem (here : Glyph) (rest : List Glyph) : Option Layout := do
  if !s.inFlow && !s.keyAllowed then none
  else
    let s ← (s.openBlock here.column s.count .blockSequence).dropCandidate
    return (s.add .item).goto rest |>.allowKey true

/-- The question mark in front of a key. -/
def readKey (here : Glyph) (rest : List Glyph) : Option Layout := do
  if !s.inFlow && !s.keyAllowed then none
  else
    let s ← (s.openBlock here.column s.count .blockMap).dropCandidate
    return (s.add .key).goto rest |>.allowKey !s.inFlow

/-- The colon in front of a value. What stands at the candidate becomes the key. -/
def readValue (here : Glyph) (rest : List Glyph) : Option Layout :=
  match s.candidate with
  | some c =>
    let s := (s.insert c.place .key).openBlock c.start.column c.place .blockMap
    some ({ s.add .value with candidate := none, rest := rest, keyAllowed := false })
  | none =>
    if !s.inFlow && !s.keyAllowed then none
    else
      let s := s.openBlock here.column s.count .blockMap
      some ((s.add .value).goto rest |>.allowKey !s.inFlow)

def isNameChar (c : Char) : Bool :=
  c.isAlphanum || c = '_' || c = '-'

def name? (gs : List Glyph) : Option (String × List Glyph) :=
  let name := (gs.takeWhile fun g => isNameChar g.char).map (·.char)
  let rest := gs.dropWhile fun g => isNameChar g.char
  let next := frontChar rest
  if name.isEmpty then none
  else if isGap next || next ∈ ['?', ':', ',', ']', '}', '%', '@', '\x60'] then
    some (String.ofList name, rest)
  else none

def isTagChar (bracketed : Bool) (c : Char) : Bool :=
  isNameChar c || c ∈ [';', '/', '?', ':', '@', '&', '=', '+', '$', '.', '%', '!', '~', '*', '\'',
    '(', ')'] || (bracketed && c ∈ [',', '[', ']'])

/-- The bytes of the escapes at the front, and what follows them. -/
def escapedBytes : List Char → List UInt8 × List Char
  | '%' :: a :: b :: cs =>
    match hexDigit? a, hexDigit? b with
    | some x, some y =>
      let (bytes, rest) := escapedBytes cs
      ((16 * x + y).toUInt8 :: bytes, rest)
    | _, _ => ([], '%' :: a :: b :: cs)
  | cs => ([], cs)

/-- A tag with its escapes replaced. The fuel bounds its length. -/
def unescapeTag : (fuel : Nat) → List Char → Option (List Char)
  | 0, _ => none
  | _, [] => some []
  | fuel + 1, c :: cs =>
    if c = '%' then
      match escapedBytes (c :: cs) with
      | ([], _) => none
      | (bytes, rest) => do
        let text ← String.fromUTF8? ⟨bytes.toArray⟩
        return text.toList ++ (← unescapeTag fuel rest)
    else (unescapeTag fuel cs).map (c :: ·)

def tagText? (bracketed : Bool) (gs : List Glyph) : Option (String × List Glyph) := do
  let text := (gs.takeWhile fun g => isTagChar bracketed g.char).map (·.char)
  return (String.ofList (← unescapeTag (text.length + 1) text),
    gs.dropWhile fun g => isTagChar bracketed g.char)

/-- The handle and the rest of a tag behind its first exclamation mark. -/
def tag? (gs : List Glyph) : Option ((String × String) × List Glyph) :=
  match gs with
  | [] => none
  | g :: others =>
    if g.char = '<' then do
      let (text, rest) ← tagText? true others
      if text.isEmpty || frontChar rest ≠ '>' then none else some (("", text), rest.tail)
    else
      let name := (gs.takeWhile fun g => isNameChar g.char).map (·.char)
      let rest := gs.dropWhile fun g => isNameChar g.char
      if frontChar rest = '!' then do
        let (text, rest) ← tagText? false rest.tail
        if text.isEmpty then none else some ((String.ofList ('!' :: name ++ ['!']), text), rest)
      else do
        let (text, rest) ← tagText? false gs
        if text.isEmpty then some (("", "!"), rest) else some (("!", text), rest)

def readTag (here : Glyph) (rest : List Glyph) : Option Layout := do
  let s ← s.markCandidate here
  let ((handle, text), rest) ← tag? rest
  let next := frontChar rest
  if isGap next || (s.inFlow && next = ',') then
    return (s.add (.tag handle text)).goto rest |>.allowKey false
  else none

/-- An anchor, or the alias that stands for what it marks. -/
def readAnchor (here : Glyph) (rest : List Glyph) (token : String → Token) : Option Layout := do
  let s ← s.markCandidate here
  let (name, rest) ← name? rest
  return (s.add (token name)).goto rest |>.allowKey false

def readBlock (folded : Bool) (rest : List Glyph) : Option Layout := do
  let s ← s.dropCandidate
  let (text, rest) ← blockText folded s.indents.head? rest
  let style := if folded then Style.enclosed else .literal
  return (s.add (.scalar style (String.ofList text))).goto rest |>.allowKey true

def readQuoted (double : Bool) (here : Glyph) (rest : List Glyph) : Option Layout := do
  let s ← s.markCandidate here
  let (text, rest) ← if double then doubleQuoted 0 0 [] .none rest else singleQuoted [] .none rest
  return (s.add (.scalar .enclosed (String.ofList text))).goto rest |>.allowKey false

/-- A plain scalar. Where it is left over the end of a line, a key may begin. -/
def readPlain (here : Glyph) (rest : List Glyph) : Option Layout := do
  let s ← s.markCandidate here
  let indent := (s.indents.head?.map (· + 1)).getD 0
  let (text, crossed, rest) ← plainText s.inFlow indent [] .none (here :: rest)
  return (s.add (.scalar .plain (String.ofList text))).goto rest |>.allowKey crossed

/-- A mark between documents, or a directive. -/
def readDocumentMark (rest : List Glyph) (token : Token) : Option Layout := do
  let s ← (s.closeWhile fun _ => true).dropCandidate
  return (s.add token).goto rest |>.allowKey false

/-- The words of a line up to its comment. -/
def lineWords (line : List Char) : List String :=
  let words := (line.splitBy fun a b => isBlank a = isBlank b).filter fun word =>
    !isBlank (word.headD ' ')
  (words.takeWhile fun word => word.head? ≠ some '#').map String.ofList

def directive? (line : List Char) : Option Token :=
  match lineWords line with
  | ["YAML", "1.1"] | ["YAML", "1.2"] => some .version
  | ["TAG", name, start] =>
    let inner := (name.toList.drop 1).dropLast
    if name = "!" || (name.startsWith "!" && name.endsWith "!" && inner.all isNameChar) then
      some (.handle name start)
    else none
  | _ => none

def readDirective (rest : List Glyph) : Option Layout := do
  let isInner (g : Glyph) : Bool := !isBreak g.char && g.char ≠ endMark
  let token ← directive? ((rest.takeWhile isInner).map (·.char))
  s.readDocumentMark (rest.dropWhile isInner) token

/-- Whether a plain scalar may begin with the character in front of `next`. -/
def beginsPlain (c next : Char) : Bool :=
  if c = '-' then !isBlank next
  else if c = '?' || c = ':' then !s.inFlow && !isGap next
  else !isGap c && !isFlowMark c &&
    c ∉ ['#', '&', '*', '!', '|', '>', '\'', '"', '%', '@', '\x60']

/-- The next token, which begins with the glyph `here`. -/
def read (here : Glyph) (rest : List Glyph) : Option Layout :=
  let next := frontChar rest
  let c := here.char
  if here.column = 0 && c = '%' then s.readDirective rest
  else if marksDocument '-' (here :: rest) then s.readDocumentMark (rest.drop 2) .documentStart
  else if marksDocument '.' (here :: rest) then s.readDocumentMark (rest.drop 2) .documentEnd
  else if c = '[' then s.openFlow here rest .flowSequence
  else if c = '{' then s.openFlow here rest .flowMap
  else if c = ']' then s.closeFlow rest .flowSequenceEnd
  else if c = '}' then s.closeFlow rest .flowMapEnd
  else if c = ',' then s.readComma rest
  else if c = '-' && isGap next then s.readItem here rest
  else if c = '?' && (s.inFlow || isGap next) then s.readKey here rest
  else if c = ':' && (s.inFlow || isGap next) then s.readValue here rest
  else if c = '*' then s.readAnchor here rest .alias
  else if c = '&' then s.readAnchor here rest .anchor
  else if c = '!' then s.readTag here rest
  else if c = '|' && !s.inFlow then s.readBlock false rest
  else if c = '>' && !s.inFlow then s.readBlock true rest
  else if c = '\'' then s.readQuoted false here rest
  else if c = '"' then s.readQuoted true here rest
  else if s.beginsPlain c next then s.readPlain here rest
  else none

/-- The tokens of the rest of a text. Each one takes a character, so their number bounds the
fuel. -/
def run : (fuel : Nat) → Layout → Option (List Token)
  | 0, _ => none
  | fuel + 1, s =>
    match skipGap s.inFlow s.keyAllowed false s.rest with
    | (_, []) => none
    | (allowed, here :: rest) => do
      let s ← (s.allowKey allowed).dropStale here
      if here.char = endMark then
        let s ← (s.closeWhile fun _ => true).dropCandidate
        return s.tokens.reverse
      else run fuel (← (s.closeWhile (here.column < ·)).read here rest)

end Layout

def Token.ofText? (cs : List Char) : Option (List Token) :=
  if cs.all isAllowed then
    let gs := glyphs cs
    Layout.run gs.length { rest := gs }
  else none

end RowTriples.Yaml
