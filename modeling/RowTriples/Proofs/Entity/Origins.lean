import RowTriples.Proofs.Entity.Sites
import RowTriples.Proofs.Entity.Written
/-!
# Where identifiers come from

An identifier of a row is one of three things: the text of a value that a binding has derived under
the name of a symbol, the digest of a content, or an identifier from the random supply. A scope adds
identifiers of these kinds to those that it is entered with, so by induction along a chain of
repetitions there are no others, in any mode.
-/

namespace RowTriples

open Expanding

/-- A binding derives the identifier somewhere in a row, as the text of a value under the name of a
symbol. -/
def IsSupplied (t : Template) (row : Row) (id : String) : Prop :=
  ∃ chain site symbol value, (Site.root t row).follow? chain = some site ∧
    site.derived.Supplies symbol value ∧ value.plainText = id

/-- The identifier is a digest or one of the random supply. -/
inductive Generates (fresh : Nat → String) : String → Prop where
  | digest (content : String) : Generates fresh (Digest.contentId content)
  | random (number : Nat) : Generates fresh (fresh number)

/-- The identifier is that of an entity of the scope itself, or a link to it is written there. -/
inductive Scope.Mentions (result : Scope) : String → Prop where
  | entity {entity : Entity} (member : entity ∈ result.entities) : Mentions result entity.id
  | link {entity : Entity} {fact : Fact} {predicates : List String} {id : String}
      (entityMember : entity ∈ result.entities) (factMember : fact ∈ entity.facts)
      (links : fact.LinksTo predicates id) (related : predicates ≠ []) : Mentions result id

/-- The identifier is mentioned at some depth. -/
def Scope.Uses (result : Scope) (id : String) : Prop :=
  ∃ chain inner, result.follow? chain = some inner ∧ inner.Mentions id

/-! ### The identifiers of a scope -/

section Identified

variable {setting : Setting} {t : Template} {row : Row} {inherited ids : Identifiers}
variable {element : Option Nat} {symbol id : String}

theorem IdSource.origin {fresh : Nat → String} {options : Options} {position : Position}
    (gives : (IdSource.of options row position symbol).Gives fresh id) :
    (∃ value, row.Supplies symbol value ∧ value.plainText = id) ∨ Generates fresh id := by
  unfold IdSource.of at gives
  split at gives
  next bound =>
    obtain rfl : id = _ := gives
    exact .inl (Row.boundId?_eq_some_iff.mp bound)
  next =>
    split at gives
    next =>
      obtain rfl : id = _ := gives
      exact .inr (.digest _)
    next =>
      obtain ⟨number, rfl⟩ := gives
      exact .inr (.random number)

/-- An identifier that is new in a scope is supplied there or generated. -/
theorem Expanding.Identifies.origin (h : Identifies setting t row inherited element ids)
    (found : Entries.get? symbol ids = some id) :
    Entries.get? symbol inherited = some id ∨
      (∃ value, (row.derive t.bindings).Supplies symbol value ∧ value.plainText = id) ∨
      Generates setting.fresh id := by
  by_cases known : symbol ∈ Entries.names inherited
  · exact .inl ((h.kept known).symm.trans found)
  have declared := ((h.names symbol).mp (Entries.mem_names_of_get? found)).resolve_left known
  obtain ⟨_, _, yields⟩ := h
  refine .inr ?_
  cases mode : setting.mode.isDeterministic with
  | true =>
      have resolves := yields_identify_deterministic mode yields
      have declared := mem_declaredSymbols.mp declared
      by_cases supplied : ∃ value, (row.derive t.bindings).Supplies symbol value
      · obtain ⟨value, supplied⟩ := supplied
        have same := resolves.supplied symbol declared known value supplied
        exact .inl ⟨value, supplied, Option.some.inj (same.symm.trans found)⟩
      · obtain ⟨entry, pending, rfl⟩ := exists_isPending declared known (not_exists.mp supplied)
        have same := (resolves.content entry pending).symm.trans found
        rw [← Option.some.inj same]
        exact .inr (.digest _)
  | false =>
      obtain ⟨id', found', gives⟩ :=
        (yields_identify_positional mode yields).given symbol declared known
      obtain rfl : id' = id := Option.some.inj (found'.symm.trans found)
      exact IdSource.origin gives

end Identified

/-! ### The identifiers of a row -/

section Row

variable {setting : Setting} {t : Template} {row : Row} {site : Site} {result inner : Scope}
variable {inherited : Identifiers} {chain before : List Branch} {name id : String}

theorem IsSupplied.of_supplies {value : Datum} (leads : (Site.root t row).follow? chain = some site)
    (supplied : site.derived.Supplies name value) : IsSupplied t row value.plainText :=
  ⟨chain, site, name, value, leads, supplied, rfl⟩

/-- What a repetition supplies at its entry is what the scope around supplies: the variable of the
iteration hides a column, and is not derived by a binding itself. -/
theorem supplies_of_bind {variableName : String} {value value' : Datum}
    (supplied : (row.bind variableName value .iteration).Supplies name value') :
    row.Supplies name value' := by
  obtain ⟨origin, found, filled⟩ := supplied
  rw [Row.origin?_bind] at origin
  rw [Row.get?_bind] at found
  split at origin
  · cases origin
  next other =>
    rw [if_neg other] at found
    exact ⟨origin, found, filled⟩

/-- A scope that is entered with supplied and generated identifiers has no others. -/
theorem origin_of_entered (leads : (Site.root t row).follow? before = some site)
    (h : Expands setting site.template site.row inherited site.element result)
    (entered : ∀ name id, Entries.get? name inherited = some id →
      IsSupplied t row id ∨ Generates setting.fresh id) :
    ∀ name id, Entries.get? name result.identifiers = some id →
      IsSupplied t row id ∨ Generates setting.fresh id := by
  intro name id found
  rcases h.run.1.origin found with known | ⟨value, supplied, rfl⟩ | generated
  · exact entered name id known
  · exact .inl (.of_supplies leads supplied)
  · exact .inr generated

/-- Nor does any scope behind it. -/
theorem origin_of_follow? (leads : (Site.root t row).follow? before = some site)
    (h : Expands setting site.template site.row inherited site.element result)
    (entered : ∀ name id, Entries.get? name inherited = some id →
      IsSupplied t row id ∨ Generates setting.fresh id)
    (reached : result.follow? chain = some inner)
    (found : Entries.get? name inner.identifiers = some id) :
    IsSupplied t row id ∨ Generates setting.fresh id := by
  induction chain generalizing before site inherited result with
  | nil =>
      cases reached
      exact origin_of_entered leads h entered name id found
  | cons branch chain ih =>
      have here := origin_of_entered leads h entered
      obtain ⟨⟨linkId, middle⟩, first, reached⟩ := Option.bind_eq_some_iff.mp reached
      obtain ⟨symbol, iteration, part, value, linked, valueAt, _, seed, seeds, expands⟩ :=
        h.repeats_of_branch? first
      have step : site.branch? branch =
          some (site.enter branch.element symbol iteration part value) :=
        Site.branch?_eq_some_iff.mpr ⟨symbol, iteration, part, value, linked, valueAt, rfl⟩
      have leads' : (Site.root t row).follow? (before ++ [branch]) =
          some (site.enter branch.element symbol iteration part value) := by
        simp [Site.follow?_append, leads, Site.follow?, step]
      refine ih leads' expands ?_ reached
      -- The repetition is entered with the identifiers here and, perhaps, one for the linked
      -- symbol.
      rcases seeds with ⟨_, rfl⟩ | ⟨_, given, rfl, gives⟩
      · exact here
      · intro name id found
        rw [Entries.get?_put] at found
        split at found
        · cases found
          rcases IdSource.origin gives with ⟨value, supplied, rfl⟩ | generated
          · exact .inl (.of_supplies leads (supplies_of_bind supplied))
          · exact .inr generated
        · exact here name id found

/-- Every identifier that a row uses is supplied by a binding or generated. -/
theorem Scope.Uses.origin (expanded : Expands setting t row [] none result)
    (used : result.Uses id) : IsSupplied t row id ∨ Generates setting.fresh id := by
  have root : (Site.root t row).follow? [] = some (Site.root t row) := rfl
  have known : ∀ chain inner name id, result.follow? chain = some inner →
      Entries.get? name inner.identifiers = some id →
      IsSupplied t row id ∨ Generates setting.fresh id :=
    fun chain inner name id reached found => origin_of_follow? root expanded nofun reached found
  obtain ⟨chain, inner, reached, mentioned⟩ := used
  obtain ⟨next, seed, _, holds⟩ := (Site.Matches.root expanded).exists_site reached
  cases mentioned with
  | entity member =>
      obtain ⟨entry, _, instantiates⟩ := exists_of_mem_right holds.expands.run.2 member
      exact known chain inner entry.symbol _ reached instantiates.id
  | @link entity fact predicates _ entityMember factMember links _ =>
      obtain ⟨entry, _, instantiates⟩ := exists_of_mem_right holds.expands.run.2 entityMember
      obtain ⟨rule, _, becomes⟩ := exists_of_mem_right instantiates.facts factMember
      cases links with
      | link =>
          cases becomes with
          | link found => exact known chain inner _ _ reached found
      | @repeated _ _ repetition occurrences member =>
          obtain ⟨_, symbol, _, _, _, _, repeats⟩ := becomes.of_fact
          obtain ⟨_, _, found, _⟩ := exists_of_mem_right repeats member
          obtain ⟨branch, step⟩ := Scope.exists_branch?_of_mem entityMember factMember member
          exact known (chain ++ [branch]) repetition symbol id
            (Scope.follow?_concat.mpr ⟨inner, id, reached, step⟩) found

end Row

end RowTriples
