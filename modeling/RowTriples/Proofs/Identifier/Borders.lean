import RowTriples.Proofs.Entity.Links
import RowTriples.Proofs.Identifier.Position
/-!
# The borders within the text of a position

The text whose digest identifies a symbol by its position is put together from the number of an
element, the symbol, the name of the output unit and the number of the row, with no marks between
them. Each of the four makes a difference where the other three are the same. Where several differ,
it depends on the borders. A number ends where something begins that is no digit. So rows can be
told if the name of the output unit does not end with a digit, and both numbers can be read off if
what stands between them neither begins nor ends with one. The border between the symbol and the
name is marked by nothing, so it may move.
-/

namespace RowTriples

/-- A number behind a text that does not end with a digit can be read back. -/
theorem append_number_inj {number number' text text' : List Char}
    (digits : ∀ c ∈ number, c.isDigit = true) (digits' : ∀ c ∈ number', c.isDigit = true)
    (border : ∀ c ∈ text.getLast?, c.isDigit = false)
    (border' : ∀ c ∈ text'.getLast?, c.isDigit = false) :
    text ++ number = text' ++ number' ↔ text = text' ∧ number = number' := by
  rw [← List.head?_reverse] at border border'
  have reversed := number_append_inj (fun c member => digits c (List.mem_reverse.mp member))
    (fun c member => digits' c (List.mem_reverse.mp member)) border border'
  rw [← List.reverse_append, ← List.reverse_append, List.reverse_inj, List.reverse_inj,
    List.reverse_inj] at reversed
  rw [reversed, and_comm]

namespace Position

/-- What stands between the two numbers of a text. -/
def frame (position : Position) (symbol : String) : List Char :=
  symbol.toList ++ position.file.toList

/-- Something stands between the two numbers of a text, and it neither begins nor ends with a
digit. -/
structure IsFramed (position : Position) (symbol : String) : Prop where
  nonempty : position.frame symbol ≠ []
  first : ∀ c ∈ (position.frame symbol).head?, c.isDigit = false
  last : ∀ c ∈ (position.frame symbol).getLast?, c.isDigit = false

/-- A symbol at a position and one that differs from it in one respect at most. -/
inductive DiffersOnce (position : Position) (symbol : String) : Position → String → Prop where
  | element (element : Option Nat) : DiffersOnce position symbol { position with element } symbol
  | symbol (symbol' : String) : DiffersOnce position symbol position symbol'
  | file (file : String) : DiffersOnce position symbol { position with file } symbol
  | row (row : Nat) : DiffersOnce position symbol { position with row } symbol

variable {position position' : Position} {symbol symbol' : String}

theorem toList_content_frame : (position.content symbol).toList =
    digits position.element ++ (position.frame symbol ++ digits (some position.row)) := by
  rw [toList_content]
  simp [frame, digits, Nat.toString_eq_repr, Nat.toList_repr]

/-- Where three of the four agree, the texts tell the fourth. -/
theorem content_eq_iff_of_differsOnce (once : DiffersOnce position symbol position' symbol') :
    position.content symbol = position'.content symbol' ↔
      position = position' ∧ symbol = symbol' := by
  refine ⟨fun same => ?_, fun ⟨samePosition, sameSymbol⟩ => by rw [samePosition, sameSymbol]⟩
  rw [← String.toList_inj, toList_content_frame, toList_content_frame] at same
  cases once with
  | element element =>
      obtain rfl := digits_inj.mp (List.append_cancel_right same)
      exact ⟨rfl, rfl⟩
  | symbol =>
      have sameFrame := List.append_cancel_right (List.append_cancel_left same)
      exact ⟨rfl, String.toList_inj.mp (List.append_cancel_right sameFrame)⟩
  | file file =>
      have sameFrame := List.append_cancel_right (List.append_cancel_left same)
      obtain rfl := String.toList_inj.mp (List.append_cancel_left sameFrame)
      exact ⟨rfl, rfl⟩
  | row row =>
      have sameRow := List.append_cancel_left (List.append_cancel_left same)
      obtain rfl := Option.some.inj (digits_inj.mp sameRow)
      exact ⟨rfl, rfl⟩

/-- Within an output unit whose name does not end with a digit, the texts tell the rows, and they
tell what stands before the name. -/
theorem content_eq_iff_of_file (shared : position.file = position'.file)
    (border : ∃ c ∈ position.file.toList.getLast?, c.isDigit = false) :
    position.content symbol = position'.content symbol' ↔
      position.row = position'.row ∧
        digits position.element ++ symbol.toList = digits position'.element ++ symbol'.toList := by
  have last (front : List Char) :
      ∀ c ∈ (front ++ position.file.toList).getLast?, c.isDigit = false := by
    obtain ⟨c, ends, noDigit⟩ := border
    rw [List.getLast?_append, Option.mem_def.mp ends, Option.some_or]
    rintro _ ⟨⟩
    exact noDigit
  rw [← String.toList_inj, toList_content_frame, toList_content_frame, frame, frame, ← shared,
    ← List.append_assoc, ← List.append_assoc, ← List.append_assoc, ← List.append_assoc,
    append_number_inj (fun _ => isDigit_of_mem_digits) (fun _ => isDigit_of_mem_digits) (last _)
      (last _),
    List.append_cancel_right_eq, digits_inj, Option.some.injEq, and_comm]

/-- Where both numbers have borders, the texts tell them, and they tell what stands between. -/
theorem content_eq_iff_of_isFramed (framed : position.IsFramed symbol)
    (framed' : position'.IsFramed symbol') :
    position.content symbol = position'.content symbol' ↔
      position.element = position'.element ∧ position.row = position'.row ∧
        position.frame symbol = position'.frame symbol' := by
  have border {p : Position} {s : String} (framed : p.IsFramed s) :
      ∀ c ∈ (p.frame s ++ digits (some p.row)).head?, c.isDigit = false := by
    rw [List.head?_append_of_ne_nil _ framed.nonempty]
    exact framed.first
  rw [← String.toList_inj, toList_content_frame, toList_content_frame,
    number_append_inj (fun _ => isDigit_of_mem_digits) (fun _ => isDigit_of_mem_digits)
      (border framed) (border framed'),
    append_number_inj (fun _ => isDigit_of_mem_digits) (fun _ => isDigit_of_mem_digits)
      framed.last framed'.last,
    digits_inj, digits_inj, Option.some.injEq, and_comm (a := _ = _) (b := position.row = _)]

/-- The border between a symbol and the name of the output unit may move. -/
theorem frame_eq_iff : position.frame symbol = position'.frame symbol' ↔
    ∃ moved, (symbol' = symbol ++ moved ∧ position.file = moved ++ position'.file) ∨
      (symbol = symbol' ++ moved ∧ position'.file = moved ++ position.file) := by
  have exists_text {p : List Char → Prop} : (∃ cs, p cs) ↔ ∃ text : String, p text.toList :=
    ⟨fun ⟨cs, h⟩ => ⟨String.ofList cs, by rwa [String.toList_ofList]⟩, fun ⟨text, h⟩ => ⟨_, h⟩⟩
  simp only [← String.toList_inj, String.toList_append, exists_or]
  rw [frame, frame, List.append_eq_append_iff, exists_text, exists_text]

/-- If one of the two parts between the numbers is the same, the texts tell everything. -/
theorem content_eq_iff_of_isFramed_of_shared (framed : position.IsFramed symbol)
    (framed' : position'.IsFramed symbol')
    (shared : position.file = position'.file ∨ symbol = symbol') :
    position.content symbol = position'.content symbol' ↔
      position = position' ∧ symbol = symbol' := by
  obtain ⟨file, row, element⟩ := position
  obtain ⟨file', row', element'⟩ := position'
  rw [content_eq_iff_of_isFramed framed framed', frame, frame, Position.mk.injEq]
  rcases shared with rfl | rfl
  · rw [List.append_cancel_right_eq, String.toList_inj]
    tauto
  · rw [List.append_cancel_left_eq, String.toList_inj]
    tauto

end Position

/-- What the texts of hashed identifiers tell apart, for symbols that no column supplies. If two of
the quadruples of element, symbol, file and row differ in one respect, their texts differ. Within a
file whose name does not end with a digit, the texts for different rows differ, and those for one
row are the same exactly if the elements with the symbols behind them are. If what stands between
the numbers of both neither begins nor ends with a digit, the texts are the same exactly if elements
and rows are and the border between symbol and file has moved; so if besides the files or the
symbols are the same, the texts differ unless the quadruples agree in everything. -/
theorem hashed_texts_eq_iff (options options' : Options) (row row' : Row)
    (position position' : Position) (symbol symbol' : String) (hashed : options.hashedIds = true)
    (hashed' : options'.hashedIds = true) (unsupplied : ∀ value, ¬row.Supplies symbol value)
    (unsupplied' : ∀ value, ¬row'.Supplies symbol' value) :
    ∃ text text',
      IdSource.of options row position symbol = .digest text ∧
      IdSource.of options' row' position' symbol' = .digest text' ∧
      (Position.DiffersOnce position symbol position' symbol' →
        (text = text' ↔ position = position' ∧ symbol = symbol')) ∧
      (position.file = position'.file → (∃ c ∈ position.file.toList.getLast?, c.isDigit = false) →
        (text = text' ↔ position.row = position'.row ∧
          Position.digits position.element ++ symbol.toList =
            Position.digits position'.element ++ symbol'.toList)) ∧
      (position.IsFramed symbol → position'.IsFramed symbol' →
        (text = text' ↔ position.element = position'.element ∧ position.row = position'.row ∧
          ∃ moved, (symbol' = symbol ++ moved ∧ position.file = moved ++ position'.file) ∨
            (symbol = symbol' ++ moved ∧ position'.file = moved ++ position.file)) ∧
        (position.file = position'.file ∨ symbol = symbol' →
          (text = text' ↔ position = position' ∧ symbol = symbol'))) := by
  refine ⟨position.content symbol, position'.content symbol',
    IdSource.of_eq_digest hashed unsupplied, IdSource.of_eq_digest hashed' unsupplied',
    Position.content_eq_iff_of_differsOnce,
    Position.content_eq_iff_of_file, fun framed framed' => ⟨?_, ?_⟩⟩
  · rw [Position.content_eq_iff_of_isFramed framed framed', Position.frame_eq_iff]
  · exact Position.content_eq_iff_of_isFramed_of_shared framed framed'

/-! ### Numbered symbols -/

/-- An owner who keeps pets, whose symbol is that of the pets with a number in front. -/
def numberedDocument : Document :=
  .map [("TEMPLATE", .sequence [.sequence [.text "Owner", .map [("GENSYM", .text "0pet"),
      ("SUBTEMPLATE_pets.GENSYM_pet", .text "keeps")]]]),
    ("SUBTEMPLATES", .map [("pets", .map [
      ("TEMPLATE", .sequence [.sequence [.text "Pet", .map [("GENSYM", .text "pet")]]]),
      ("ITERABLE", .sequence [.sequence [.text "pets", .text "animal"]])])]),
    ("OPTIONS", .map [("HASHED_IDS", .bool true)])]

def numberedOptions : Options :=
  ⟨true, false, defaultLookupClasses⟩

def numberedTemplate : Template :=
  ⟨[⟨"Owner", "0pet", [⟨.type, []⟩, ⟨.repeated "pets" "pet", ["keeps"]⟩]⟩],
    [("pets", ⟨"pets", "animal"⟩, ⟨[⟨"Pet", "pet", [⟨.type, []⟩]⟩], [], [], numberedOptions⟩)], [],
    numberedOptions⟩

def numberedRow : Row :=
  ⟨⟨["pets"]⟩, [.text "Rex"], []⟩

def sharedScope (id : String) : Scope :=
  .mk [("0pet", id)] []
    [.mk id "Owner" [.type, .repeated ["keeps"]
      [(id, .mk [("0pet", id), ("pet", id)] [] [.mk id "Pet" [.type]])]]]

theorem isFramed_pet (row : Nat) (element : Option Nat) :
    Position.IsFramed ⟨"people_0.nt", row, element⟩ "pet" := by
  refine ⟨?_, ?_, ?_⟩ <;> simp [Position.frame]

/-- The second pet of a row and the first pet of the next one are told apart. -/
theorem hashed_texts_eq_iff_numbered :
    let position : Position := ⟨"people_0.nt", 0, some 1⟩
    let position' : Position := ⟨"people_0.nt", 1, some 0⟩
    let inside := numberedRow.bind "animal" (.text "Rex") .iteration
    numberedOptions.hashedIds = true ∧ (∀ value, ¬inside.Supplies "pet" value) ∧
    ∃ text text',
      IdSource.of numberedOptions inside position "pet" = .digest text ∧
      IdSource.of numberedOptions inside position' "pet" = .digest text' ∧ text ≠ text' := by
  intro position position' inside
  have unsupplied : ∀ value, ¬inside.Supplies "pet" value := fun _ supplied => nomatch supplied.1
  obtain ⟨text, text', source, source', _, _, framed⟩ := hashed_texts_eq_iff numberedOptions
    numberedOptions inside inside position position' "pet" "pet" rfl rfl unsupplied unsupplied
  refine ⟨rfl, unsupplied, text, text', source, source', fun same => ?_⟩
  obtain ⟨_, shared⟩ := framed (isFramed_pet _ _) (isFramed_pet _ _)
  obtain ⟨positions, _⟩ := (shared (.inl rfl)).mp same
  exact absurd positions (by decide)

/-- The owner has no element and the pet has the element zero, but their symbols make up for it.
They have the same text, so they have the same identifier. -/
theorem shared_text_numbered :
    numberedTemplate.IsLoaded ∧ ∃ text,
      IdSource.of numberedOptions numberedRow ⟨"people_0.nt", 0, none⟩ "0pet" = .digest text ∧
      IdSource.of numberedOptions (numberedRow.bind "animal" (.text "Rex") .iteration)
        ⟨"people_0.nt", 0, some 0⟩ "pet" = .digest text ∧
      (Expanding.row recordSetting numberedTemplate numberedRow.header numberedRow.cells).run {} =
        (.ok (sharedScope (Digest.contentId text)), {}) :=
  ⟨⟨true, numberedDocument, rfl⟩, "0petpeople_0.nt0", by decide, by decide, rfl⟩

end RowTriples
