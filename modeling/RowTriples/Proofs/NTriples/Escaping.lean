import RowTriples.Proofs.NTriples.Grammar
/-!
# Reading literals back

Behind a backslash a letter stands for a character. To read the text between the quotation marks of
a literal is to replace every such escape by its character. Reading fails at a quotation mark, a
line break or a backslash outside of an escape, so it accepts the quoted texts of the grammar and no
others. Escapes that give the number of a character are never written, and they are not read here.

A text is read back from its literal. Since the closing quotation mark can be told from the escaped
ones, a literal also determines its datatype, and whether it has one.
-/

namespace RowTriples.NTriples

/-- The character that a letter behind a backslash stands for. -/
def unescaped? : Char → Option Char
  | '\\' => some '\\'
  | '"' => some '"'
  | 'n' => some '\n'
  | 'r' => some '\r'
  | 't' => some '\t'
  | 'b' => some '\x08'
  | 'f' => some '\x0c'
  | '\x27' => some '\x27'
  | _ => none

/-- The text that is quoted by what stands between two quotation marks. -/
def unescape? : List Char → Option (List Char)
  | [] => some []
  | '\\' :: letter :: cs => (unescaped? letter).bind fun c => (unescape? cs).map (c :: ·)
  | c :: cs => if c ∈ ['\\', '"', '\n', '\r'] then none else (unescape? cs).map (c :: ·)

section Reading

variable {c letter : Char} {cs rest : List Char}

theorem unescape?_escape :
    unescape? ('\\' :: letter :: cs) =
      (unescaped? letter).bind fun c => (unescape? cs).map (c :: ·) := by
  rw [unescape?]

theorem unescape?_plain (plain : c ∉ ['\\', '"', '\n', '\r']) :
    unescape? (c :: cs) = (unescape? cs).map (c :: ·) := by
  have other : c ≠ '\\' := fun same => plain (List.mem_cons.mpr (.inl same))
  rw [unescape?, if_neg plain]
  exact fun _ _ same _ => other same

theorem isSome_unescaped?_iff :
    (unescaped? letter).isSome = true ↔
      letter ∈ ['\\', '"', 'n', 'r', 't', 'b', 'f', '\x27'] := by
  unfold unescaped?
  split <;> simp_all

/-- The quoted texts of the grammar are read, and nothing else is. -/
theorem isSome_unescape?_iff : (unescape? cs).isSome = true ↔ Body cs := by
  constructor
  · intro read
    fun_induction unescape? cs with
    | case1 => exact .nil
    | case2 letter cs ih =>
        obtain ⟨text, read⟩ := Option.isSome_iff_exists.mp read
        obtain ⟨c, stands, read⟩ := Option.bind_eq_some_iff.mp read
        obtain ⟨inside, read, _⟩ := Option.map_eq_some_iff.mp read
        have known : (unescaped? letter).isSome = true := by rw [stands]; rfl
        exact .escape (isSome_unescaped?_iff.mp known) (ih (by rw [read]; rfl))
    | case3 => cases read
    | case4 c cs _ plain ih =>
        rw [Option.isSome_map] at read
        exact .plain plain (ih read)
  · intro body
    induction body with
    | nil => rfl
    | plain plain _ ih => rw [unescape?_plain plain, Option.isSome_map, ih]
    | escape known _ ih =>
        obtain ⟨c, stands⟩ := Option.isSome_iff_exists.mp (isSome_unescaped?_iff.mpr known)
        rw [unescape?_escape, stands, Option.bind_some, Option.isSome_map, ih]

/-- What a character is written as is read as that character. -/
theorem unescape?_escaped_append (c : Char) (rest : List Char) :
    unescape? (escaped c ++ rest) = (unescape? rest).map (c :: ·) := by
  unfold escaped
  split
  next same => rw [same]; exact unescape?_escape
  split
  next same => rw [same]; exact unescape?_escape
  split
  next same => rw [same]; exact unescape?_escape
  split
  next same => rw [same]; exact unescape?_escape
  split
  next same => rw [same]; exact unescape?_escape
  next => exact unescape?_plain (by simp_all)

/-- An escaped text is read as the text. -/
theorem unescape?_flatMap_escaped (cs : List Char) : unescape? (cs.flatMap escaped) = some cs := by
  induction cs with
  | nil => rfl
  | cons c cs ih => rw [List.flatMap_cons, unescape?_escaped_append, ih, Option.map_some]

end Reading

/-! ### Literals -/

/-- A literal with a datatype is that of one text and one datatype. -/
theorem typedLiteral_eq_iff {text text' datatype datatype' : String} :
    typedLiteral text datatype = typedLiteral text' datatype' ↔
      text = text' ∧ datatype = datatype' := by
  constructor
  · intro same
    have whole := congrArg String.toList same
    rw [toList_typedLiteral, toList_typedLiteral] at whole
    obtain ⟨quoted, _⟩ := (body_flatMap_escaped text.toList).unique
      (body_flatMap_escaped text'.toList) (List.cons.inj whole).2
    have read : some text.toList = some text'.toList := by
      rw [← unescape?_flatMap_escaped text.toList, quoted, unescape?_flatMap_escaped]
    exact ⟨String.toList_inj.mp (Option.some.inj read), typedLiteral_injective same⟩
  · rintro ⟨rfl, rfl⟩
    rfl

/-- Literals are faithful. What stands between the quotation marks of a literal without datatype is
a quoted text of the grammar, in which quotation marks and backslashes occur in escapes only. There
is no line break and no tab in it, and it is read as the text of the literal, by a reader that
accepts the quoted texts of the grammar and nothing else. A literal with a datatype is that of one
text and one datatype, and it is no literal without one. -/
theorem literals_are_faithful (text : String) :
    (∀ inside, (unescape? inside).isSome = true ↔ Body inside) ∧
    (∃ inside, (plainLiteral text).toList = '"' :: (inside ++ ['"']) ∧ Body inside ∧
      unescape? inside = some text.toList) ∧
    '\n' ∉ (plainLiteral text).toList ∧ '\r' ∉ (plainLiteral text).toList ∧
    '\t' ∉ (plainLiteral text).toList ∧
    (∀ text' datatype datatype' : String,
      typedLiteral text datatype = typedLiteral text' datatype' ↔
        text = text' ∧ datatype = datatype') ∧
    ∀ text' datatype : String, typedLiteral text' datatype ≠ plainLiteral text := by
  have visible {c : Char} (control : c ∈ ['\n', '\r', '\t']) : c ∉ (plainLiteral text).toList :=
    fun member => notMem_controls_of_mem_plainLiteral member control
  refine ⟨fun _ => isSome_unescape?_iff, ⟨_, toList_plainLiteral text,
    body_flatMap_escaped text.toList, unescape?_flatMap_escaped text.toList⟩, visible (by decide),
    visible (by decide), visible (by decide), fun _ _ _ => typedLiteral_eq_iff, ?_⟩
  exact fun _ _ same => plainLiteral_ne_typedLiteral same.symm

end RowTriples.NTriples
