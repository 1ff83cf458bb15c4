/-!
# Cutting text at a delimiter

A delimiter is found at its leftmost occurrence, and the search goes on behind it, so occurrences
never overlap. `pieces` cuts a text at all of them and `joinWith` puts the pieces together again.
-/

namespace RowTriples.Text

/-- What follows `start` in `cs`, if `cs` begins with `start`. -/
def after? : (start cs : List Char) → Option (List Char)
  | [], cs => some cs
  | _ :: _, [] => none
  | s :: start, c :: cs => if s = c then after? start cs else none

/-- The parts of `cs` before and behind the leftmost occurrence of `delimiter`. -/
def cut? (delimiter : List Char) : List Char → Option (List Char × List Char)
  | [] => if delimiter.isEmpty then some ([], []) else none
  | c :: cs =>
    match after? delimiter (c :: cs) with
    | some rest => some ([], rest)
    | none => (cut? delimiter cs).map fun (before, rest) => (c :: before, rest)

@[simp] theorem after?_nil (cs : List Char) : after? [] cs = some cs := by
  cases cs <;> rfl

theorem after?_eq_some_iff {start cs rest : List Char} :
    after? start cs = some rest ↔ cs = start ++ rest := by
  induction start generalizing cs with
  | nil => simp [eq_comm]
  | cons s start ih =>
    cases cs with
    | nil => simp [after?]
    | cons c cs =>
      by_cases h : s = c
      · subst h
        simp [after?, ih]
      · simp [after?, h, Ne.symm h]

theorem eq_append_of_cut? {delimiter cs before rest : List Char}
    (h : cut? delimiter cs = some (before, rest)) : cs = before ++ delimiter ++ rest := by
  induction cs generalizing before with
  | nil =>
    cases delimiter <;> simp_all [cut?]
  | cons c cs ih =>
    rw [cut?] at h
    split at h
    · next found =>
      simp only [Option.some.injEq, Prod.mk.injEq] at h
      obtain ⟨rfl, rfl⟩ := h
      simpa using after?_eq_some_iff.1 found
    · obtain ⟨⟨b, r⟩, found, same⟩ := Option.map_eq_some_iff.1 h
      simp only [Prod.mk.injEq] at same
      obtain ⟨rfl, rfl⟩ := same
      simp [ih found]

/-- The pieces of a text between the occurrences of a nonempty delimiter, where the first `skip`
characters still belong to an occurrence that has been found. -/
def piecesFrom (delimiter : List Char) : (skip : Nat) → List Char → List (List Char)
  | _, [] => [[]]
  | skip + 1, _ :: cs => piecesFrom delimiter skip cs
  | 0, c :: cs =>
    if delimiter.isPrefixOf (c :: cs) then [] :: piecesFrom delimiter (delimiter.length - 1) cs
    else (piecesFrom delimiter 0 cs).modifyHead (c :: ·)

/-- The pieces of `cs` between the occurrences of `delimiter`. An empty delimiter cuts nothing. -/
def pieces (delimiter cs : List Char) : List (List Char) :=
  if delimiter.isEmpty then [cs] else piecesFrom delimiter 0 cs

/-- Writes `separator` between neighbouring parts. -/
def joinWith (separator : List Char) : List (List Char) → List Char
  | [] => []
  | [part] => part
  | part :: parts => part ++ separator ++ joinWith separator parts

/-- Every occurrence of `old` replaced by `new`. An empty `old` occurs before every character and
at the end. -/
def replace (old new cs : List Char) : List Char :=
  if old.isEmpty then new ++ cs.flatMap (fun c => c :: new)
  else joinWith new (pieces old cs)

/-- The runs between the characters that satisfy `isSeparator`, empty ones included. -/
def runs (isSeparator : Char → Bool) : List Char → List (List Char)
  | [] => [[]]
  | c :: cs =>
    if isSeparator c then [] :: runs isSeparator cs
    else (runs isSeparator cs).modifyHead (c :: ·)

/-- The nonempty runs between the characters that satisfy `isSeparator`. -/
def words (isSeparator : Char → Bool) (cs : List Char) : List (List Char) :=
  (runs isSeparator cs).filter fun run => !run.isEmpty

def splitAt (delimiter text : String) : List String :=
  (pieces delimiter.toList text.toList).map String.ofList

def dropStart? (start text : String) : Option String :=
  (after? start.toList text.toList).map String.ofList

def contains (part text : String) : Bool :=
  (cut? part.toList text.toList).isSome

def startsWith (start text : String) : Bool :=
  (after? start.toList text.toList).isSome

end RowTriples.Text
