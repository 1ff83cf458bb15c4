import RowTriples.Text.CaseTable
/-!
# Upper and lower case

The full case mappings of Unicode without those of a particular language. One character may become
several, as in `ß` and `SS`. A capital sigma becomes the final form at the end of a word: behind a
letter and not in front of one.
-/

namespace RowTriples.Text

/-- The characters that `c` is mapped to by a table of sequences and a table of runs. -/
def mapCase (sequences : List (Nat × List Nat)) (runs : List CaseRun) (c : Char) : List Char :=
  match sequences.lookup c.toNat with
  | some codes => codes.map Char.ofNat
  | none =>
    match runs.findSome? (·.moved? c.toNat) with
    | some code => [Char.ofNat code]
    | none => [c]

def upperChar (c : Char) : List Char :=
  mapCase upperSequences upperRuns c

/-- The lower case of a character, wherever it stands. -/
def lowerChar (c : Char) : List Char :=
  mapCase lowerSequences lowerRuns c

/-- Whether the first character that is not skipped is a letter with case. -/
def meetsCased (cs : List Char) : Bool :=
  match cs.dropWhile fun c => inRanges caseIgnorableRanges c.toNat with
  | [] => false
  | c :: _ => inRanges casedRanges c.toNat

/-- The lower case of text that follows the characters `before`, which are in reverse order. -/
def lowerFrom (before : List Char) : List Char → List Char
  | [] => []
  | c :: cs =>
    let mapped :=
      if c = 'Σ' then [if meetsCased before && !meetsCased cs then 'ς' else 'σ'] else lowerChar c
    mapped ++ lowerFrom (c :: before) cs

def lower (cs : List Char) : List Char :=
  lowerFrom [] cs

def upper (cs : List Char) : List Char :=
  cs.flatMap upperChar

/-- The text in lower case with its first character in upper case. Empty text has no such form. -/
def proper? (cs : List Char) : Option (List Char) :=
  match lower cs with
  | [] => none
  | c :: rest => some (upperChar c ++ rest)

end RowTriples.Text
