import RowTriples.Proofs.NTriples.Spelling
import RowTriples.Template.Load
/-!
# The keys of properties

A property key says what its rule is about. Two prefixes are reserved: one for repetitions, whose
key names a subtemplate and, behind the first point, a linked symbol, and one for links to a symbol.
All other keys name columns. Reserved keys that leave out a name are malformed, and so are keys of
repetitions that do not go on with a link behind their first point. Every target therefore has at
most one key, and it has one unless a name is missing or the name of a subtemplate holds a point.
-/

namespace RowTriples

/-! ### Cutting -/

namespace Text

theorem dropStart?_eq_some_iff {start text rest : String} :
    dropStart? start text = some rest ↔ text = start ++ rest := by
  constructor
  · intro found
    obtain ⟨cs, behind, rfl⟩ := Option.map_eq_some_iff.mp found
    rw [← String.toList_inj, String.toList_append, String.toList_ofList]
    exact after?_eq_some_iff.mp behind
  · rintro rfl
    exact dropStart?_append start rest

theorem dropStart?_eq_none_iff {start text : String} :
    dropStart? start text = none ↔ ∀ rest, text ≠ start ++ rest := by
  rw [Option.eq_none_iff_forall_not_mem]
  exact forall_congr' fun rest => not_congr dropStart?_eq_some_iff

theorem cut?_singleton_cons (point c : Char) (cs : List Char) :
    cut? [point] (c :: cs) =
      if point = c then some ([], cs)
      else (cut? [point] cs).map fun (before, rest) => (c :: before, rest) := by
  by_cases here : point = c
  · simp [cut?, after?, here]
  · simp [cut?, after?, here]

/-- A text is cut at a character where the character first occurs. -/
theorem cut?_singleton_eq_some_iff {point : Char} {cs before rest : List Char} :
    cut? [point] cs = some (before, rest) ↔ cs = before ++ point :: rest ∧ point ∉ before := by
  induction cs generalizing before with
  | nil => simp [cut?]
  | cons c cs ih =>
      rw [cut?_singleton_cons]
      split
      next here =>
        subst here
        cases before with
        | nil => simp
        | cons b before =>
            simp only [Option.some.injEq, Prod.mk.injEq, reduceCtorEq, false_and, false_iff,
              List.cons_append, List.cons.injEq, List.mem_cons, not_or]
            rintro ⟨⟨same, _⟩, other, _⟩
            exact other same
      next other =>
        rw [Option.map_eq_some_iff]
        constructor
        · rintro ⟨⟨before', rest'⟩, found, same⟩
          cases same
          obtain ⟨rfl, absent⟩ := ih.mp found
          exact ⟨rfl, by simp [other, absent]⟩
        · rintro ⟨whole, absent⟩
          cases before with
          | nil =>
              cases whole
              exact absurd rfl other
          | cons b before =>
              cases whole
              exact ⟨(before, rest), ih.mpr ⟨rfl, fun member => absent (.tail _ member)⟩, rfl⟩

end Text

namespace Target

/-- The key begins with a prefix that is not for columns. -/
def IsReserved (key : String) : Prop :=
  (∃ rest, key = "SUBTEMPLATE_" ++ rest) ∨ ∃ rest, key = "GENSYM_" ++ rest

inductive WrittenAs : Target → String → Prop where
  | repeated {subtemplate linked : String} (named : subtemplate ≠ "")
      (whole : '.' ∉ subtemplate.toList) (links : linked ≠ "") :
      WrittenAs (.repeated subtemplate linked)
        ("SUBTEMPLATE_" ++ subtemplate ++ ".GENSYM_" ++ linked)
  | symbol {name : String} (named : name ≠ "") : WrittenAs (.symbol name) ("GENSYM_" ++ name)
  | column {name : String} (plain : ¬IsReserved name) : WrittenAs (.column name) name

/-- A target has at most one key. -/
theorem WrittenAs.unique {target : Target} {key key' : String} (h : target.WrittenAs key)
    (h' : target.WrittenAs key') : key = key' := by
  cases h <;> cases h' <;> rfl

variable {key : String} {target : Target}

theorem writtenAs_of_ofKey? (denotes : ofKey? key = some target) : target.WrittenAs key := by
  unfold ofKey? at denotes
  split at denotes
  next rest behind =>
    obtain rfl := Text.dropStart?_eq_some_iff.mp behind
    split at denotes
    next name part cut =>
      split at denotes
      next linked after =>
        split at denotes
        next => cases denotes
        next present =>
          cases denotes
          obtain ⟨whole, absent⟩ := Text.cut?_singleton_eq_some_iff.mp cut
          obtain rfl := Text.after?_eq_some_iff.mp after
          simp only [List.isEmpty_iff, Bool.or_eq_true, not_or] at present
          have text : rest = String.ofList name ++ ".GENSYM_" ++ String.ofList linked := by
            rw [← String.toList_inj]
            simpa using whole
          have key : "SUBTEMPLATE_" ++ rest =
              "SUBTEMPLATE_" ++ String.ofList name ++ ".GENSYM_" ++ String.ofList linked := by
            rw [text, String.append_assoc, String.append_assoc, String.append_assoc]
          rw [key]
          exact .repeated (by simpa using present.1) (by simpa using absent)
            (by simpa using present.2)
      next => cases denotes
    next => cases denotes
  next ordinary =>
    split at denotes
    next linked behind =>
      obtain rfl := Text.dropStart?_eq_some_iff.mp behind
      split at denotes
      next => cases denotes
      next present =>
        cases denotes
        exact .symbol (by simpa using present)
    next unlinked =>
      cases denotes
      refine .column ?_
      rintro (⟨rest, same⟩ | ⟨rest, same⟩)
      · exact Text.dropStart?_eq_none_iff.mp ordinary rest same
      · exact Text.dropStart?_eq_none_iff.mp unlinked rest same

theorem ofKey?_of_writtenAs (h : target.WrittenAs key) : ofKey? key = some target := by
  cases h with
  | @repeated subtemplate linked named whole links =>
      have rest : Text.dropStart? "SUBTEMPLATE_"
          ("SUBTEMPLATE_" ++ subtemplate ++ ".GENSYM_" ++ linked) =
            some (subtemplate ++ ".GENSYM_" ++ linked) := by
        rw [String.append_assoc, String.append_assoc, Text.dropStart?_append, String.append_assoc]
      have cut : Text.cut? ['.'] (subtemplate ++ ".GENSYM_" ++ linked).toList =
          some (subtemplate.toList, "GENSYM_".toList ++ linked.toList) :=
        Text.cut?_singleton_eq_some_iff.mpr ⟨by simp, whole⟩
      simp only [ofKey?, rest, cut, Text.after?_eq_some_iff.mpr rfl]
      simp [named, links]
  | @symbol name named =>
      have ordinary : Text.dropStart? "SUBTEMPLATE_" ("GENSYM_" ++ name) = none := by
        simp [Text.dropStart?, Text.after?]
      simp [ofKey?, ordinary, Text.dropStart?_append, named]
  | column plain =>
      obtain ⟨notRepeated, notSymbol⟩ := not_or.mp plain
      have ordinary := Text.dropStart?_eq_none_iff.mpr (not_exists.mp notRepeated)
      have unlinked := Text.dropStart?_eq_none_iff.mpr (not_exists.mp notSymbol)
      simp only [ofKey?, ordinary, unlinked]

/-- A key denotes a target if it is the target's written form. -/
theorem ofKey?_eq_some_iff : ofKey? key = some target ↔ target.WrittenAs key :=
  ⟨writtenAs_of_ofKey?, ofKey?_of_writtenAs⟩

theorem ofKey?_eq_none_iff : ofKey? key = none ↔ ∀ target : Target, ¬target.WrittenAs key := by
  rw [Option.eq_none_iff_forall_not_mem]
  exact forall_congr' fun target => not_congr ofKey?_eq_some_iff

theorem writtenAs_repeated_iff {subtemplate linked : String} :
    (Target.repeated subtemplate linked).WrittenAs key ↔
      key = "SUBTEMPLATE_" ++ subtemplate ++ ".GENSYM_" ++ linked ∧
        subtemplate ≠ "" ∧ '.' ∉ subtemplate.toList ∧ linked ≠ "" := by
  constructor
  · intro h
    cases h with
    | repeated named whole links => exact ⟨rfl, named, whole, links⟩
  · rintro ⟨rfl, named, whole, links⟩
    exact .repeated named whole links

theorem writtenAs_symbol_iff {name : String} :
    (Target.symbol name).WrittenAs key ↔ key = "GENSYM_" ++ name ∧ name ≠ "" := by
  constructor
  · intro h
    cases h with
    | symbol named => exact ⟨rfl, named⟩
  · rintro ⟨rfl, named⟩
    exact .symbol named

theorem writtenAs_column_iff {name : String} :
    (Target.column name).WrittenAs key ↔ name = key ∧ ¬IsReserved key := by
  constructor
  · intro h
    cases h with
    | column plain => exact ⟨rfl, plain⟩
  · rintro ⟨rfl, plain⟩
    exact .column plain

end Target

/-- A property is refused for its key, with an error that names the entity and the key, if and only
if the key denotes nothing. -/
theorem Entry.property_eq_invalidKey_iff {type key : String} {value : Json} :
    property type key value = .error (.invalidKey type key) ↔ Target.ofKey? key = none := by
  unfold property
  split
  next isSymbol =>
    have ordinary : Target.ofKey? key ≠ none := by
      rw [isSymbol]
      decide
    split <;> simp [ordinary]
  next =>
    split
    next missing => simp [missing]
    next found _ => simp [found]
    next found _ => simp [found]

/-- Keys are decoded exactly. A key denotes the repetition of a subtemplate with a linked symbol,
the link to a symbol, or a column if and only if it is written as such, with no name left out and no
point in the name of the subtemplate, and the property is refused for every other key. So a
subtemplate can be repeated, and a symbol be linked, under every name that is not empty and, for the
subtemplate, holds no point. Different keys never denote the same. -/
theorem keys_are_decoded_exactly :
    (∀ key subtemplate linked, Target.ofKey? key = some (.repeated subtemplate linked) ↔
      key = "SUBTEMPLATE_" ++ subtemplate ++ ".GENSYM_" ++ linked ∧
        subtemplate ≠ "" ∧ '.' ∉ subtemplate.toList ∧ linked ≠ "") ∧
    (∀ key name, Target.ofKey? key = some (.symbol name) ↔ key = "GENSYM_" ++ name ∧ name ≠ "") ∧
    (∀ key name, Target.ofKey? key = some (.column name) ↔
      name = key ∧ (∀ rest, key ≠ "SUBTEMPLATE_" ++ rest) ∧ ∀ rest, key ≠ "GENSYM_" ++ rest) ∧
    (∀ type key value, Entry.property type key value = .error (.invalidKey type key) ↔
      ((∃ rest, key = "SUBTEMPLATE_" ++ rest) ∨ ∃ rest, key = "GENSYM_" ++ rest) ∧
        (∀ subtemplate linked, subtemplate ≠ "" → '.' ∉ subtemplate.toList → linked ≠ "" →
          key ≠ "SUBTEMPLATE_" ++ subtemplate ++ ".GENSYM_" ++ linked) ∧
        ∀ name, name ≠ "" → key ≠ "GENSYM_" ++ name) ∧
    (∀ subtemplate linked, (∃ key, Target.ofKey? key = some (.repeated subtemplate linked)) ↔
      subtemplate ≠ "" ∧ '.' ∉ subtemplate.toList ∧ linked ≠ "") ∧
    (∀ name, (∃ key, Target.ofKey? key = some (.symbol name)) ↔ name ≠ "") ∧
    ∀ key key' target, Target.ofKey? key = some target → Target.ofKey? key' = some target →
      key = key' := by
  refine ⟨fun _ _ _ => Target.ofKey?_eq_some_iff.trans Target.writtenAs_repeated_iff,
    fun _ _ => Target.ofKey?_eq_some_iff.trans Target.writtenAs_symbol_iff, ?_, ?_, ?_, ?_, ?_⟩
  · intro key name
    rw [Target.ofKey?_eq_some_iff, Target.writtenAs_column_iff, Target.IsReserved, not_or,
      not_exists, not_exists]
  · intro type key value
    rw [Entry.property_eq_invalidKey_iff, Target.ofKey?_eq_none_iff]
    constructor
    · intro nothing
      refine ⟨?_, ?_, ?_⟩
      · by_contra plain
        exact nothing (.column key) (.column plain)
      · rintro subtemplate linked named whole links rfl
        exact nothing _ (.repeated named whole links)
      · rintro name named rfl
        exact nothing _ (.symbol named)
    · rintro ⟨reserved, notRepeated, notSymbol⟩ target written
      cases written with
      | repeated named whole links => exact notRepeated _ _ named whole links rfl
      | symbol named => exact notSymbol _ named rfl
      | column plain => exact plain reserved
  · intro subtemplate linked
    simp only [Target.ofKey?_eq_some_iff, Target.writtenAs_repeated_iff, exists_eq_left]
  · intro name
    simp only [Target.ofKey?_eq_some_iff, Target.writtenAs_symbol_iff, exists_eq_left]
  · intro key key' target denotes denotes'
    exact (Target.ofKey?_eq_some_iff.mp denotes).unique (Target.ofKey?_eq_some_iff.mp denotes')

/-- Names may look like prefixes, and a linked symbol may hold points. -/
theorem keys_are_decoded_exactly_nested :
    Target.ofKey? "SUBTEMPLATE_GENSYM_a.GENSYM_SUBTEMPLATE_b.GENSYM_c" =
      some (.repeated "GENSYM_a" "SUBTEMPLATE_b.GENSYM_c") ∧
    (∃ key, Target.ofKey? key = some (.repeated "SUBTEMPLATE_" ".GENSYM_")) ∧
    ∀ key, Target.ofKey? key = some (.repeated "GENSYM_a" "SUBTEMPLATE_b.GENSYM_c") →
      key = "SUBTEMPLATE_GENSYM_a.GENSYM_SUBTEMPLATE_b.GENSYM_c" := by
  obtain ⟨repeated, _, _, _, addressable, _, injective⟩ := keys_are_decoded_exactly
  have denotes := (repeated "SUBTEMPLATE_GENSYM_a.GENSYM_SUBTEMPLATE_b.GENSYM_c" "GENSYM_a"
    "SUBTEMPLATE_b.GENSYM_c").mpr (by decide)
  exact ⟨denotes, (addressable _ _).mpr (by decide),
    fun key denotes' => injective _ _ _ denotes' denotes⟩

end RowTriples
