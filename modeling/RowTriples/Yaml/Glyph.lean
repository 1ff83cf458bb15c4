/-!
# Characters with positions

The layout of a YAML text carries meaning, so its characters are read together with their places.
The five kinds of line breaks end a line; all but the two separators of Unicode are written as a
line feed. A zero character, which no text may hold, marks the end.
-/

namespace RowTriples.Yaml

/-- A character and its place, counted from zero. -/
structure Glyph where
  char : Char
  line : Nat
  column : Nat
  index : Nat

/-- The character at the end of every text. -/
def endMark : Char := '\x00'

def isBreak (c : Char) : Bool :=
  c = '\n' || c = '\r' || c = '\u0085' || c = '\u2028' || c = '\u2029'

/-- Whether a character is a space or a tab. -/
def isBlank (c : Char) : Bool :=
  c = ' ' || c = '\t'

/-- Whether a word ends before the character. -/
def isGap (c : Char) : Bool :=
  isBlank c || isBreak c || c = endMark

def isAllowed (c : Char) : Bool :=
  c = '\t' || c = '\n' || c = '\r' || (' ' ≤ c && c ≤ '~') || c = '\u0085' ||
    ('\u00a0' ≤ c && c.toNat ≤ 0xd7ff) || (0xe000 ≤ c.toNat && c.toNat ≤ 0xfffd) ||
    0x10000 ≤ c.toNat

def glyphsFrom (line column index : Nat) : List Char → List Glyph
  | [] => [⟨endMark, line, column, index⟩]
  | '\r' :: '\n' :: cs => ⟨'\n', line, column, index⟩ :: glyphsFrom (line + 1) 0 (index + 2) cs
  | c :: cs =>
    if isBreak c then
      let written := if c = '\u2028' || c = '\u2029' then c else '\n'
      ⟨written, line, column, index⟩ :: glyphsFrom (line + 1) 0 (index + 1) cs
    else ⟨c, line, column, index⟩ :: glyphsFrom line (column + 1) (index + 1) cs

def glyphs (cs : List Char) : List Glyph :=
  glyphsFrom 0 0 0 cs

def frontChar : List Glyph → Char
  | [] => endMark
  | g :: _ => g.char

/-- Whether the front of a line marks the beginning or the end of a document: three hyphens or
three points that end a word. -/
def marksDocument (c : Char) : List Glyph → Bool
  | a :: b :: d :: gs =>
    a.column = 0 && a.char = c && b.char = c && d.char = c && isGap (frontChar gs)
  | _ => false

def atDocumentMark (gs : List Glyph) : Bool :=
  marksDocument '-' gs || marksDocument '.' gs

end RowTriples.Yaml
