import RowTriples.Proofs.Entity.Supplied
/-!
# Identifiers of enclosing scopes

A symbol keeps its identifier in the scopes behind the one that declares it, in every mode, as long
as no link on the way names the symbol. Where content decides, such links change nothing. Otherwise
a repetition is entered with an identifier of its own for the linked symbol, and this one takes the
place of the identifier from outside: an entity that links back to the symbol no longer links to the
enclosing entity.
-/

namespace RowTriples

open Expanding

/-- A symbol at a site that declares it, and a site at or behind that one. -/
structure InheritedSymbol (t : Template) (row : Row) where
  chain : List Branch
  symbol : String
  site : Site
  leads : (Site.root t row).follow? chain = some site
  declared : symbol ∈ site.template.symbols
  /-- The way from the site that declares the symbol. -/
  beyond : List Branch
  inner : Site
  behind : site.follow? beyond = some inner

/-- In the enclosing scope and in the scope behind it, the symbol stands for the same identifier. -/
def InheritedSymbol.IsKept {t : Template} {row : Row} (s : InheritedSymbol t row)
    (language : Language) (result : Scope) : Prop :=
  ∃ id, result.StandsFor language t s.chain s.symbol id ∧
    result.StandsFor language t (s.chain ++ s.beyond) s.symbol id

/-! ### One repetition -/

section Step

variable {setting : Setting} {t : Template} {row : Row} {inherited : Identifiers}
variable {element : Option Nat} {result repetition : Scope} {branch : Branch}
variable {linked name id : String}

/-- A repetition has the identifiers of the scope around it, except for that of the linked symbol
where content does not decide. -/
theorem Expanding.Expands.kept_of_branch? (h : Expands setting t row inherited element result)
    {part : Iteration × Template} (leads : t.branch? branch = some (linked, part))
    {link : String} (found : result.branch? branch = some (link, repetition))
    (apart : setting.mode.isDeterministic = true ∨ linked ≠ name)
    (known : Entries.get? name result.identifiers = some id) :
    Entries.get? name repetition.identifiers = some id := by
  obtain ⟨symbol, iteration, inner, value, leads', _, _, seed, seeds, _, _, entered⟩ :=
    h.repeats_of_branch? found
  cases leads'.symm.trans leads
  have entered : Expands setting inner _ seed _ repetition := ⟨_, _, entered⟩
  have seeded : Entries.get? name seed = some id := by
    rcases seeds with ⟨_, rfl⟩ | ⟨mode, given, rfl, _⟩
    · exact known
    · have apart : linked ≠ name := apart.resolve_left (by simp [mode])
      rw [Entries.get?_put, if_neg apart, known]
  rw [entered.run.1.kept (Entries.mem_names_of_get? seeded), seeded]

end Step

/-! ### Chains of repetitions -/

section Chain

variable {setting : Setting} {site next : Site} {inherited : Identifiers} {result : Scope}
variable {beyond : List Branch} {name id : String}

/-- An identifier of a scope is kept along every chain on which no link names its symbol, and where
content decides along every chain. -/
theorem Site.Matches.kept (h : site.Matches setting inherited result)
    (found : site.follow? beyond = some next)
    (unlinked : setting.mode.isDeterministic = true ∨ site.template.lastLink? name beyond = none)
    (known : Entries.get? name result.identifiers = some id) :
    ∃ inner seed, result.follow? beyond = some inner ∧ next.Matches setting seed inner ∧
      Entries.get? name inner.identifiers = some id := by
  induction beyond generalizing site inherited result with
  | nil =>
      cases found
      exact ⟨result, inherited, rfl, h, known⟩
  | cons branch beyond ih =>
      obtain ⟨middle, first, found⟩ := Option.bind_eq_some_iff.mp found
      obtain ⟨linked, ⟨iteration, part⟩, link, repetition, seed, leads, occurrenceAt, _, holds,
        _⟩ :=
        h.step first
      obtain ⟨_, _, _, _, leads', _, rfl⟩ := Site.branch?_eq_some_iff.mp first
      cases leads'.symm.trans leads
      -- That no link names the symbol splits into this branch and the ones after it.
      simp only [Template.lastLink?, leads, Option.or_eq_none_iff, ite_eq_right_iff,
        reduceCtorEq, imp_false] at unlinked
      have entered := h.expands.kept_of_branch? leads occurrenceAt
        (unlinked.imp_right And.right) known
      obtain ⟨inner, seed', reached, holds', known'⟩ :=
        ih holds found (unlinked.imp_right And.left) entered
      exact ⟨inner, seed', by simp [Scope.follow?, occurrenceAt, reached], holds', known'⟩

/-- What was linked on a way is still linked on a longer one. -/
theorem Site.isSome_seed_of_follow? (found : site.follow? beyond = some next)
    (seeded : (site.seeds.lookup name).isSome = true) :
    (next.seeds.lookup name).isSome = true := by
  induction beyond generalizing site with
  | nil =>
      cases found
      exact seeded
  | cons branch beyond ih =>
      obtain ⟨middle, first, found⟩ := Option.bind_eq_some_iff.mp found
      obtain ⟨linked, iteration, part, value, _, _, rfl⟩ := Site.branch?_eq_some_iff.mp first
      refine ih found ?_
      simp only [Site.enter, List.lookup_cons]
      split
      · rfl
      · exact seeded

/-- A site remembers the links that lead to it. -/
theorem Site.isSome_seed_of_lastLink? (found : site.follow? beyond = some next)
    (linked : (site.template.lastLink? name beyond).isSome = true) :
    (next.seeds.lookup name).isSome = true := by
  induction beyond generalizing site with
  | nil => cases linked
  | cons branch beyond ih =>
      obtain ⟨middle, first, found⟩ := Option.bind_eq_some_iff.mp found
      obtain ⟨symbol, iteration, part, value, leads, _, rfl⟩ := Site.branch?_eq_some_iff.mp first
      simp only [Template.lastLink?, leads, Option.isSome_or, Bool.or_eq_true] at linked
      rcases linked with later | here
      · exact ih found later
      · obtain rfl : symbol = name := by simpa using here
        exact Site.isSome_seed_of_follow? found (by simp [Site.enter])

end Chain

/-- What an inherited symbol stands for, in every row that expands. In the scope that declares it
the symbol stands for an identifier. In every scope behind that one, in every mode, it stands for
the same identifier, if no link on the way names the symbol. Where content decides, it does so
whatever is linked on the way. Otherwise it stands for the identifier that the last of these links
gave it. -/
theorem inherited_identifiers (setting : Setting) (t : Template) (header : Header)
    (cells : List Datum) (progress : Progress) (expansion : Expansion) (loaded : t.IsLoaded)
    (done : (expandRow setting t header cells progress).1 = .ok expansion) :
    ∃ result progress',
      (Expanding.row setting t header cells).run progress = (.ok result, progress') ∧
      expansion = result.expansion setting.language ∧
      ∀ s : InheritedSymbol t { header, cells },
        (setting.mode.isDeterministic = true → s.IsKept setting.language result) ∧
        (setting.mode.isDeterministic = false →
          match s.site.template.lastLink? s.symbol s.beyond with
          | none => s.IsKept setting.language result
          | some _ => ∃ mint id, s.inner.seeds.lookup s.symbol = some mint ∧
              (mint.source setting s.symbol).Gives setting.fresh id ∧
              result.StandsFor setting.language t (s.chain ++ s.beyond) s.symbol id) := by
  obtain ⟨result, progress', yields, rfl⟩ := exists_scope_of_expandRow done
  have matched : (Site.root t { header, cells }).Matches setting [] result :=
    .root ⟨progress, progress', yields⟩
  refine ⟨result, progress', yields, rfl, fun s => ?_⟩
  obtain ⟨outer, seed, reached, holds, _⟩ := matched.follow s.leads
  obtain ⟨id, known⟩ : ∃ id, Entries.get? s.symbol outer.identifiers = some id :=
    Entries.exists_get?_of_mem ((holds.expands.run.1.names _).mpr (.inr s.declared))
  have leads : (Site.root t { header, cells }).follow? (s.chain ++ s.beyond) = some s.inner := by
    rw [Site.follow?_append, s.leads, Option.bind_some, s.behind]
  have kept (unlinked : setting.mode.isDeterministic = true ∨
      s.site.template.lastLink? s.symbol s.beyond = none) : s.IsKept setting.language result := by
    obtain ⟨inner, seed', reached', holds', known'⟩ := holds.kept s.behind unlinked known
    have reached' : result.follow? (s.chain ++ s.beyond) = some inner := by
      rw [Scope.follow?_append, reached, Option.bind_some, reached']
    exact ⟨id, matched.standsFor loaded.complete s.leads reached holds known,
      matched.standsFor loaded.complete leads reached' holds' known'⟩
  refine ⟨fun mode => kept (.inl mode), fun mode => ?_⟩
  cases linked : s.site.template.lastLink? s.symbol s.beyond with
  | none => exact kept (.inr linked)
  | some i =>
      obtain ⟨mint, seeded⟩ := Option.isSome_iff_exists.mp
        (Site.isSome_seed_of_lastLink? s.behind (by rw [linked]; rfl))
      obtain ⟨inner, seed', reached', holds', _⟩ := matched.follow leads
      obtain ⟨id', entered, gives⟩ := holds'.linked s.symbol mint
        (by rw [Site.relinked_of_positional mode, seeded])
      have known' := (holds'.expands.run.1.kept (Entries.mem_names_of_get? entered)).trans entered
      exact ⟨mint, id', seeded, gives,
        matched.standsFor loaded.complete leads reached' holds' known'⟩

/-! ### Pets and their owner -/

def kennelRow : Row :=
  ⟨⟨["name", "pets"]⟩, [.text "Ada", .list [.text "Rex", .text "Tom"]], []⟩

theorem kennelTemplate_isLoaded : kennelTemplate.IsLoaded := ⟨true, kennelDocument, rfl⟩

/-- The owner of the kennel, to whom the second pet links back. -/
def kennelOwner : InheritedSymbol kennelTemplate kennelRow where
  chain := []
  symbol := "owner"
  site := Site.root kennelTemplate kennelRow
  leads := rfl
  declared := by decide
  beyond := [⟨0, 2, 1⟩]
  inner := (Site.root kennelTemplate kennelRow).enter 1 "pet" ⟨"pets", "pet"⟩ petTemplate
    (.text "Tom")
  behind := rfl

/-- With identifiers chosen anew for every row, the pet links to its owner. -/
theorem inherited_identifiers_kennel :
    kennelTemplate.IsLoaded ∧ ∃ expansion,
      (expandRow recordSetting kennelTemplate kennelRow.header kennelRow.cells {}).1 =
        .ok expansion ∧
      ∃ result : Scope, expansion = result.expansion recordSetting.language ∧
        kennelOwner.IsKept recordSetting.language result := by
  have done : ∃ expansion, (expandRow recordSetting kennelTemplate kennelRow.header
      kennelRow.cells {}).1 = .ok expansion := ⟨_, rfl⟩
  obtain ⟨expansion, done⟩ := done
  obtain ⟨result, _, _, same, inherits⟩ := inherited_identifiers recordSetting kennelTemplate _ _ {}
    expansion kennelTemplate_isLoaded done
  exact ⟨kennelTemplate_isLoaded, expansion, done, result, same, (inherits kennelOwner).2 rfl⟩

/-- An owner who keeps pets, and who links for every pet to the owner that the pet links back to. -/
def backlinkDocument : Document :=
  .map [("TEMPLATE", .sequence [.sequence [.text "Owner", .map [("GENSYM", .text "owner"),
      ("SUBTEMPLATE_pets.GENSYM_owner", .text "keeps")]]]),
    ("SUBTEMPLATES", .map [("pets", .map [
      ("TEMPLATE", .sequence [.sequence [.text "Pet", .map [("GENSYM", .text "pet"),
        ("GENSYM_owner", .text "keptBy")]]]),
      ("ITERABLE", .sequence [.sequence [.text "pets", .text "animal"]])])])]

def backlinkTemplate : Template :=
  ⟨[⟨"Owner", "owner", [⟨.type, []⟩, ⟨.repeated "pets" "owner", ["keeps"]⟩]⟩],
    [("pets", ⟨"pets", "animal"⟩, petTemplate)], [], {}⟩

def backlinkRow : Row :=
  ⟨⟨["pets"]⟩, [.text "Rex"], []⟩

def backlinkOwner : InheritedSymbol backlinkTemplate backlinkRow where
  chain := []
  symbol := "owner"
  site := Site.root backlinkTemplate backlinkRow
  leads := rfl
  declared := by decide
  beyond := [⟨0, 1, 0⟩]
  inner := (Site.root backlinkTemplate backlinkRow).enter 0 "owner" ⟨"pets", "animal"⟩ petTemplate
    (.text "Rex")
  behind := rfl

def backlinkScope : Scope :=
  .mk [("owner", "0")] []
    [.mk "0" "Owner" [.type, .repeated ["keeps"]
      [("1", .mk [("owner", "1"), ("pet", "2")] []
        [.mk "2" "Pet" [.type, .link ["keptBy"] "1"]])]]]

/-- The row of the owner expands, and the pet does not link to the owner but to an identifier that
no entity has. -/
theorem not_isKept_backlink :
    backlinkTemplate.IsLoaded ∧
    (Expanding.row recordSetting backlinkTemplate backlinkRow.header backlinkRow.cells).run {} =
      (.ok backlinkScope, ⟨3, []⟩) ∧
    ¬backlinkOwner.IsKept recordSetting.language backlinkScope := by
  refine ⟨⟨true, backlinkDocument, rfl⟩, rfl, ?_⟩
  rintro ⟨id, outside, inside⟩
  obtain ⟨owner, found, same, _⟩ := outside.entities 0 _ rfl rfl
  obtain rfl : owner = backlinkScope.entities.head (by decide) := (Option.some.inj found).symm
  obtain ⟨pet, found', linked, _⟩ := inside.links 0 1 _ ["keptBy"] rfl rfl
  obtain rfl : pet = .mk "2" "Pet" [.type, .link ["keptBy"] "1"] := (Option.some.inj found').symm
  obtain rfl : "1" = id := by
    have linked : some (Fact.link ["keptBy"] "1") = some (Fact.link ["keptBy"] id) := linked
    cases linked
    rfl
  exact absurd same (by decide)

end RowTriples
