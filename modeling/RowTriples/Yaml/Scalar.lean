import RowTriples.Yaml.Glyph
/-!
# Scalars

A scalar is written plain, between quotation marks, or as a block of lines. Inside the first two a
single line break is folded to a space, further breaks are kept, and blanks at the ends of lines
are dropped. In a block the lines are kept as they are behind their common indentation, or folded
in the same way where neither neighbour is indented further.
-/

namespace RowTriples.Yaml

/-! ## Folding -/

/-- The blanks and breaks between two words, newest first. -/
inductive Pause where
  | none
  | blanks (seen : List Char)
  /-- A first break, which is missing where it was escaped, and the breaks after it. -/
  | breaks (first : Option Char) (others : List Char)

namespace Pause

def add (c : Char) : Pause → Pause
  | .none => if isBreak c then .breaks (some c) [] else .blanks [c]
  | .blanks seen => if isBreak c then .breaks (some c) [] else .blanks (c :: seen)
  | .breaks first others => if isBreak c then .breaks first (c :: others) else .breaks first others

def crossesLine : Pause → Bool
  | .breaks _ _ => true
  | _ => false

def isNone : Pause → Bool
  | .none => true
  | _ => false

/-- The text with what the pause is folded to, newest first. -/
def onto (text : List Char) : Pause → List Char
  | .none => text
  | .blanks seen => seen ++ text
  | .breaks (some '\n') [] => ' ' :: text
  | .breaks (some '\n') others => others ++ text
  | .breaks (some c) others => others ++ c :: text
  | .breaks .none others => others ++ text

end Pause

/-! ## Quotation marks -/

/-- The rest of a text between single quotation marks, where the mark itself is written twice. -/
def singleQuoted (text : List Char) (pause : Pause) :
    List Glyph → Option (List Char × List Glyph)
  | [] => none
  | g :: gs =>
    if g.char = endMark then none
    else if isGap g.char then singleQuoted text (pause.add g.char) gs
    else if atDocumentMark (g :: gs) then none
    else if g.char = '\'' then
      match gs with
      | next :: others =>
        if next.char = '\'' then singleQuoted ('\'' :: pause.onto text) .none others
        else some ((pause.onto text).reverse, next :: others)
      | [] => none
    else singleQuoted (g.char :: pause.onto text) .none gs

def escaped? (c : Char) : Option Char :=
  match c with
  | '0' => some '\x00'
  | 'a' => some '\x07'
  | 'b' => some '\x08'
  | 't' | '\t' => some '\t'
  | 'n' => some '\n'
  | 'v' => some '\x0b'
  | 'f' => some '\x0c'
  | 'r' => some '\r'
  | 'e' => some '\x1b'
  | ' ' => some ' '
  | '"' => some '"'
  | '/' => some '/'
  | '\\' => some '\\'
  | 'N' => some '\u0085'
  | '_' => some '\u00a0'
  | 'L' => some '\u2028'
  | 'P' => some '\u2029'
  | _ => none

/-- How many hexadecimal digits follow the letter behind a backslash. -/
def codeLength (c : Char) : Nat :=
  match c with
  | 'x' => 2
  | 'u' => 4
  | 'U' => 8
  | _ => 0

def hexDigit? (c : Char) : Option Nat :=
  if '0' ≤ c && c ≤ '9' then some (c.toNat - '0'.toNat)
  else if 'a' ≤ c && c ≤ 'f' then some (c.toNat - 'a'.toNat + 10)
  else if 'A' ≤ c && c ≤ 'F' then some (c.toNat - 'A'.toNat + 10)
  else none

/-- The rest of a text between double quotation marks. Of a character code, `digits` digits are
still to be read and those before have the value `code`. -/
def doubleQuoted (digits code : Nat) (text : List Char) (pause : Pause) :
    List Glyph → Option (List Char × List Glyph)
  | [] => none
  | g :: gs =>
    if digits > 0 then
      match hexDigit? g.char with
      | none => none
      | some d =>
        let code := 16 * code + d
        if digits > 1 then doubleQuoted (digits - 1) code text pause gs
        else if code.isValidChar then doubleQuoted 0 0 (Char.ofNat code :: text) .none gs
        else none
    else if g.char = endMark then none
    else if isGap g.char then doubleQuoted 0 0 text (pause.add g.char) gs
    else if atDocumentMark (g :: gs) then none
    else if g.char = '"' then some ((pause.onto text).reverse, gs)
    else if g.char = '\\' then
      match gs with
      | [] => none
      | next :: others =>
        if isBreak next.char then
          doubleQuoted 0 0 (pause.onto text) (.breaks Option.none []) others
        else if codeLength next.char > 0 then
          doubleQuoted (codeLength next.char) 0 (pause.onto text) .none others
        else
          match escaped? next.char with
          | some c => doubleQuoted 0 0 (c :: pause.onto text) .none others
          | none => none
    else doubleQuoted 0 0 (g.char :: pause.onto text) .none gs

/-! ## Plain scalars -/

/-- Whether a character has a meaning of its own inside brackets and braces. -/
def isFlowMark (c : Char) : Bool :=
  c = ',' || c = '[' || c = ']' || c = '{' || c = '}'

/-- The rest of a plain scalar, whether it was left over the end of a line, and what follows. -/
def plainText (inFlow : Bool) (indent : Nat) (text : List Char) (pause : Pause) :
    List Glyph → Option (List Char × Bool × List Glyph)
  | [] => none
  | g :: gs =>
    let ended := some (text.reverse, pause.crossesLine, g :: gs)
    if g.char = endMark then ended
    else if isGap g.char then
      if g.char = '\t' && pause.crossesLine && g.column < indent then none
      else plainText inFlow indent text (pause.add g.char) gs
    else if !pause.isNone &&
        ((!inFlow && g.column < indent) || g.char = '#' || atDocumentMark (g :: gs)) then ended
    else
      let next := frontChar gs
      if inFlow && g.char = ':' && (isFlowMark next || next = '?') then none
      else if (g.char = ':' && isGap next) || (inFlow && isFlowMark g.char) then ended
      else plainText inFlow indent (g.char :: pause.onto text) .none gs

/-! ## Blocks of lines -/

/-- What becomes of the line breaks at the end of a block. -/
inductive Chomping where
  | strip
  | clip
  | keep

def Chomping.ofMark? (c : Char) : Option Chomping :=
  if c = '-' then some .strip else if c = '+' then some .keep else none

/-- The width of a block's indentation that is written in its first line. -/
def indentation? (c : Char) : Option Nat :=
  if '1' ≤ c && c ≤ '9' then some (c.toNat - '0'.toNat) else none

/-- The marks behind the sign of a block, in either order. -/
def blockMarks : List Glyph → Chomping × Option Nat × List Glyph
  | [] => (.clip, none, [])
  | a :: gs =>
    match Chomping.ofMark? a.char, indentation? a.char, gs with
    | some chomping, _, b :: others =>
      match indentation? b.char with
      | some n => (chomping, some n, others)
      | none => (chomping, none, gs)
    | none, some n, b :: others =>
      match Chomping.ofMark? b.char with
      | some chomping => (chomping, some n, others)
      | none => (.clip, some n, gs)
    | _, _, _ => (.clip, none, a :: gs)

/-- What follows the first line of a block, in which only blanks and a comment may stand. -/
def afterBlockMarks? (gs : List Glyph) : Option (List Glyph) :=
  let rest := gs.dropWhile fun g => isBlank g.char
  let rest :=
    if frontChar rest = '#' then rest.dropWhile fun g => !isBreak g.char && g.char ≠ endMark
    else rest
  match rest with
  | [] => none
  | g :: others =>
    if isBreak g.char then some others else if g.char = endMark then some (g :: others) else none

def laterLines : List Glyph → List (List Glyph)
  | [] => []
  | g :: gs => if isBreak g.char then gs :: laterLines gs else laterLines gs

/-- The line without its indentation, of which at most the given width is dropped. -/
def dropIndent (width : Option Nat) (line : List Glyph) : List Glyph :=
  line.dropWhile fun g => g.char = ' ' && width.all (g.column < ·)

/-- The width of the empty lines at the front and of the indentation of the line after them. Tabs
may not stand there. -/
def frontWidth (width : Nat) : List (List Glyph) → Option Nat
  | [] => some width
  | line :: lines =>
    match dropIndent none line with
    | [] => none
    | g :: _ =>
      if g.char = '\t' then none
      else if isBreak g.char then frontWidth (max width g.column) lines
      else some (max width g.column)

/-- The part of a block that has been read, newest first. -/
structure Block where
  text : List Char := []
  /-- The break after the last line that is not empty. -/
  lastBreak : Option Char := none
  /-- The breaks of the empty lines after it. -/
  emptyLines : List Char := []
  /-- Whether the last line that is not empty begins with a blank. -/
  indented : Bool := false

namespace Block

def addLine (folded : Bool) (line : List Char) (ending : Option Char) (block : Block) : Block :=
  let indented := isBlank (line.headD ' ')
  let text :=
    if folded && block.lastBreak = some '\n' && !block.indented && !indented then
      if block.emptyLines.isEmpty then ' ' :: block.text else block.emptyLines ++ block.text
    else block.emptyLines ++ block.lastBreak.toList ++ block.text
  ⟨line.reverse ++ text, ending, [], indented⟩

/-- The text of the block. -/
def chomp (chomping : Chomping) (block : Block) : List Char :=
  match chomping with
  | .strip => block.text.reverse
  | .clip => (block.lastBreak.toList ++ block.text).reverse
  | .keep => (block.emptyLines ++ block.lastBreak.toList ++ block.text).reverse

def ofLines (folded : Bool) (indent : Nat) (block : Block) :
    List (List Glyph) → Option (Block × List Glyph)
  | [] => none
  | line :: lines =>
    match dropIndent (some indent) line with
    | [] => none
    | g :: gs =>
      if g.char = '\t' && g.column < indent then none
      else if isBreak g.char then
        ofLines folded indent { block with emptyLines := g.char :: block.emptyLines } lines
      else if g.column = indent && g.char ≠ endMark then
        let isInner (g : Glyph) : Bool := !isBreak g.char && g.char ≠ endMark
        let text := ((g :: gs).takeWhile isInner).map (·.char)
        match (g :: gs).dropWhile isInner with
        | [] => none
        | e :: rest =>
          if isBreak e.char then
            ofLines folded indent (block.addLine folded text (some e.char)) lines
          else some (block.addLine folded text none, e :: rest)
      else some (block, g :: gs)

end Block

/-- The rest of a block scalar behind its sign, where `outer` is the indentation around it. -/
def blockText (folded : Bool) (outer : Option Nat) (gs : List Glyph) :
    Option (List Char × List Glyph) := do
  let (chomping, width, rest) := blockMarks gs
  let body ← afterBlockMarks? rest
  let lines := body :: laterLines body
  let indent ←
    match width with
    | some n => some (outer.getD 0 + n)
    | none => (frontWidth 0 lines).map fun width => max width ((outer.map (· + 1)).getD 1)
  let (block, rest) ← Block.ofLines folded indent {} lines
  return (block.chomp chomping, rest)

end RowTriples.Yaml
