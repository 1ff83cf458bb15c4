import Mathlib.Data.Fintype.Card
import Mathlib.Data.Set.Finite.Basic
import Mathlib.Logic.Relation
import RowTriples.Identifier.Resolution
/-!
# The links between symbols

Identifiers by content follow the links between the entries of a scope. Which entries take part is
said here without the procedure that identifies them: an entry is pending if it is the first to
declare its symbol, and neither the scopes around nor a derived column give the symbol an
identifier. A symbol links to another one if its entry has a rule for it.

The graph is finite, so entries that can never be left along their links run into a cycle. That is
the only argument about cycles that the identification needs, in both directions.
-/

namespace RowTriples

/-- A binding derives a value that is not empty under the name of a symbol. -/
def Row.Supplies (row : Row) (symbol : String) (value : Datum) : Prop :=
  row.origin? symbol = some .binding ∧ row.get? symbol = some value ∧ value.isEmpty = false

namespace Row

variable {row : Row} {symbol id : String}

/-- The identifier of a symbol that a column supplies is the plain text of the column. -/
theorem boundId?_eq_some_iff :
    row.boundId? symbol = some id ↔ ∃ value, row.Supplies symbol value ∧ value.plainText = id := by
  unfold boundId? Supplies
  split
  · next h => simp [Option.map_eq_some_iff, Option.filter_eq_some_iff, h, and_assoc]
  · next h => simp [h]

theorem boundId?_eq_none_iff :
    row.boundId? symbol = none ↔ ∀ value, ¬row.Supplies symbol value := by
  rw [Option.eq_none_iff_forall_ne_some]
  constructor
  · intro h value supplied
    exact h value.plainText (boundId?_eq_some_iff.mpr ⟨value, supplied, rfl⟩)
  · intro h id bound
    obtain ⟨value, supplied, _⟩ := boundId?_eq_some_iff.mp bound
    exact h value supplied

end Row

namespace IdSource

variable {options : Options} {row : Row} {position : Position} {symbol : String} {value : Datum}

theorem of_eq_bound (supplied : row.Supplies symbol value) :
    of options row position symbol = .bound value.plainText := by
  rw [of, Row.boundId?_eq_some_iff.mpr ⟨value, supplied, rfl⟩]

theorem of_eq_digest (hashed : options.hashedIds = true)
    (unsupplied : ∀ value, ¬row.Supplies symbol value) :
    of options row position symbol = .digest (position.content symbol) := by
  rw [of, Row.boundId?_eq_none_iff.mpr unsupplied]
  exact if_pos hashed

end IdSource

theorem Entry.mem_links_iff {entry : Entry} {name : String} :
    name ∈ entry.links ↔ ∃ rule ∈ entry.rules, rule.target = .symbol name := by
  simp only [links, List.mem_filterMap]
  refine exists_congr fun rule => and_congr_right fun _ => ?_
  cases rule.target <;> simp

theorem Entry.mem_columnRules_iff {entry : Entry} {name : String} {rule : Rule} :
    (name, rule) ∈ entry.columnRules ↔ rule ∈ entry.rules ∧ rule.target = .column name := by
  simp only [columnRules, List.mem_filterMap]
  constructor
  · rintro ⟨rule', member, found⟩
    cases target : rule'.target with
    | column name' =>
        simp only [target, Option.some.injEq, Prod.mk.injEq] at found
        obtain ⟨rfl, rfl⟩ := found
        exact ⟨member, target⟩
    | type => simp [target] at found
    | symbol => simp [target] at found
    | repeated => simp [target] at found
  · rintro ⟨member, target⟩
    exact ⟨rule, member, by simp [target]⟩

/-- An entry waits for an identifier by content: it is the first declaration of its symbol, and the
symbol has no identifier from elsewhere. -/
structure Entry.IsPending (row : Row) (entries : List Entry) (inherited : Identifiers)
    (entry : Entry) : Prop where
  first : entries.find? (·.symbol = entry.symbol) = some entry
  new : entry.symbol ∉ Entries.names inherited
  unsupplied : ∀ value, ¬row.Supplies entry.symbol value

/-- A pending entry links to a symbol that nobody declares. -/
def HasDanglingLink (row : Row) (entries : List Entry) (inherited : Identifiers) : Prop :=
  ∃ entry : Entry, entry.IsPending row entries inherited ∧ ∃ target ∈ entry.links,
    target ∉ entries.map (·.symbol) ∧ target ∉ Entries.names inherited

/-- The links from symbol to symbol within a set of entries. -/
def LinksWithin (within : Entry → Prop) (source target : String) : Prop :=
  ∃ entry other, within entry ∧ within other ∧ entry.symbol = source ∧ other.symbol = target ∧
    target ∈ entry.links

/-- A symbol links to itself, over others of the set or directly. -/
def HasCycle (within : Entry → Prop) : Prop :=
  ∃ symbol, Relation.TransGen (LinksWithin within) symbol symbol

namespace HasCycle

variable {within larger : Entry → Prop}

theorem mono (h : HasCycle within) (sub : ∀ entry, within entry → larger entry) :
    HasCycle larger := by
  obtain ⟨symbol, path⟩ := h
  refine ⟨symbol, path.lift id ?_⟩
  rintro _ _ ⟨entry, other, he, ho, rfl, rfl, link⟩
  exact ⟨entry, other, sub entry he, sub other ho, rfl, rfl, link⟩

/-- A cycle has at least one link. -/
theorem exists_link (h : HasCycle within) :
    ∃ entry other, within entry ∧ within other ∧ other.symbol ∈ entry.links := by
  obtain ⟨symbol, path⟩ := h
  obtain ⟨_, ⟨entry, other, he, ho, _, rfl, link⟩, _⟩ := Relation.TransGen.head'_iff.mp path
  exact ⟨entry, other, he, ho, link⟩

/-- Entries each of which links to another one of them contain a cycle. -/
theorem of_stuck {entries : List Entry} (nonempty : entries ≠ [])
    (inside : ∀ entry ∈ entries, within entry)
    (stuck : ∀ entry ∈ entries, ∃ other ∈ entries, other.symbol ∈ entry.links) :
    HasCycle within := by
  by_contra acyclic
  -- Without a cycle the links would lead downwards in a finite order, and a lowest entry is stuck.
  let below (a b : {entry // entry ∈ entries}) : Prop :=
    Relation.TransGen (LinksWithin within) b.val.symbol a.val.symbol
  have : Finite {entry // entry ∈ entries} := entries.finite_toSet
  have : IsTrans _ below := ⟨fun _ _ _ h₁ h₂ => h₂.trans h₁⟩
  have : Std.Irrefl below := ⟨fun a path => acyclic ⟨a.val.symbol, path⟩⟩
  have wf : WellFounded below := Finite.wellFounded_of_trans_of_irrefl below
  obtain ⟨entry, member⟩ := List.exists_mem_of_ne_nil entries nonempty
  have impossible : ∀ a : {entry // entry ∈ entries}, False := by
    intro a
    induction a using wf.induction with
    | h a ih =>
        obtain ⟨other, otherMember, link⟩ := stuck a.val a.property
        exact ih ⟨other, otherMember⟩ (.single
          ⟨a.val, other, inside _ a.property, inside _ otherMember, rfl, rfl, link⟩)
  exact impossible ⟨entry, member⟩

/-- The symbols of a cycle: none of them has all its links outside. -/
theorem exists_trap (h : HasCycle within) :
    ∃ trapped : String → Prop, (∃ symbol, trapped symbol) ∧
      ∀ symbol, trapped symbol → ∃ target, LinksWithin within symbol target ∧ trapped target := by
  obtain ⟨start, loop⟩ := h
  refine ⟨fun s => Relation.TransGen (LinksWithin within) s start ∧
    Relation.TransGen (LinksWithin within) start s, ⟨start, loop, loop⟩, ?_⟩
  rintro symbol ⟨back, there⟩
  rcases Relation.TransGen.head'_iff.mp back with ⟨target, link, rest⟩
  refine ⟨target, link, ?_, there.tail link⟩
  exact Relation.TransGen.trans_right rest loop

end HasCycle

end RowTriples
