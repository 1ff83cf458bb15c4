import RowTriples.Proofs.Entity.Draws
import RowTriples.Proofs.Entity.Inherited
/-!
# The options that decide an identifier

Where identifiers do not depend on content, the options of a scope decide whether the symbols that
it declares get digests or random identifiers. But a symbol that a repetition links gets its
identifier before the repetition is entered, and then the options of the scope around the link
decide, whatever those of the subtemplate are. So the options of a scope decide about its symbols
exactly as long as no link on the way names them.
-/

namespace RowTriples

open Expanding

/-- A symbol at a site that declares it, where no scope around declares it. -/
structure OwnSymbol (t : Template) (row : Row) where
  chain : List Branch
  symbol : String
  site : Site
  leads : (Site.root t row).follow? chain = some site
  declared : symbol ∈ site.template.symbols
  /-- No scope around declares the symbol. -/
  new : symbol ∉ site.around

/-- The circumstances decide what the symbol stands for in the scope that a chain leads to: what a
column supplies or else, as the options have it, the digest of the position or the random identifier
that was drawn at the given place. The draws are numbered from `first` on. -/
structure Mint.Decides (setting : Setting) (t : Template) (row : Row) (result : Scope) (first : Nat)
    (chain : List Branch) (symbol : String) (place : List Branch) (mint : Mint) : Prop where
  supplied : ∀ value, mint.row.Supplies symbol value →
    result.StandsFor setting.language t chain symbol value.plainText
  hashed : (∀ value, ¬mint.row.Supplies symbol value) → mint.options.hashedIds = true →
    result.StandsFor setting.language t chain symbol
      (Digest.contentId (Position.content ⟨setting.file, setting.row, mint.element⟩ symbol))
  random : (∀ value, ¬mint.row.Supplies symbol value) → mint.options.hashedIds = false →
    ∃ i, (Site.root t row).draws[i]? = some (place, symbol) ∧
      result.StandsFor setting.language t chain symbol (setting.fresh (first + i))

theorem Mint.isRandom_iff {mint : Mint} {symbol : String} : mint.isRandom symbol = true ↔
    (∀ value, ¬mint.row.Supplies symbol value) ∧ mint.options.hashedIds = false := by
  simp [isRandom, Row.boundId?_eq_none_iff]

/-! ### Links on the way -/

namespace Site

variable {site next : Site} {chain : List Branch} {symbol : String}

/-- What a site remembers about a symbol stays as long as no branch links it. -/
theorem lookup_seeds_of_follow? (found : site.follow? chain = some next)
    (unlinked : site.template.lastLink? symbol chain = none) :
    next.seeds.lookup symbol = site.seeds.lookup symbol := by
  induction chain generalizing site with
  | nil =>
      cases found
      rfl
  | cons branch chain ih =>
      obtain ⟨middle, step, found⟩ := Option.bind_eq_some_iff.mp found
      obtain ⟨linked, iteration, inner, value, part, _, rfl⟩ := branch?_eq_some_iff.mp step
      simp only [Template.lastLink?, part, Option.or_eq_none_iff] at unlinked
      obtain ⟨beyond, here⟩ := unlinked
      have other : symbol ≠ linked := by
        rintro rfl
        simp at here
      rw [ih found beyond]
      simp [enter, List.lookup_cons, beq_eq_false_iff_ne.mpr other]

/-- Where a chain links a symbol, there is a last branch that does. -/
theorem exists_lastLink (found : site.follow? chain = some next)
    (linked : site.template.lastLink? symbol chain ≠ none) :
    ∃ before branch after outer iteration inner value, chain = before ++ branch :: after ∧
      site.follow? before = some outer ∧
      outer.template.branch? branch = some (symbol, iteration, inner) ∧
      (outer.derived.values iteration.source)[branch.element]? = some value ∧
      inner.lastLink? symbol after = none := by
  induction chain generalizing site with
  | nil => exact absurd rfl linked
  | cons branch chain ih =>
      obtain ⟨middle, step, found⟩ := Option.bind_eq_some_iff.mp found
      obtain ⟨here, iteration, inner, value, part, valueAt, rfl⟩ := branch?_eq_some_iff.mp step
      by_cases beyond : inner.lastLink? symbol chain = none
      · simp only [Template.lastLink?, part, beyond, Option.none_or, ne_eq, ite_eq_right_iff,
          reduceCtorEq, imp_false, not_not] at linked
        subst linked
        exact ⟨[], branch, chain, site, iteration, inner, value, rfl, rfl, part, valueAt, beyond⟩
      · obtain ⟨before, last, after, outer, iteration', inner', value', rfl, leads, rest⟩ :=
          ih found beyond
        exact ⟨branch :: before, last, after, outer, iteration', inner', value', rfl,
          Option.bind_eq_some_iff.mpr ⟨_, step, leads⟩, rest⟩

/-! ### Where an identifier is drawn -/

theorem mem_draws_of_own (found : site.follow? chain = some next) (own : symbol ∈ next.ownDraws) :
    (chain, symbol) ∈ site.draws := by
  induction chain generalizing site with
  | nil =>
      cases found
      exact mem_draws_nil_iff.mpr own
  | cons branch chain ih =>
      obtain ⟨middle, step, found⟩ := Option.bind_eq_some_iff.mp found
      exact mem_draws_cons_iff.mpr ⟨middle, step, .inr (ih found)⟩

theorem mem_draws_of_link {outer : Site} {branch : Branch} (leads : site.follow? chain = some outer)
    (step : outer.branch? branch = some next) (link : symbol ∈ next.linkDraws) :
    (chain ++ [branch], symbol) ∈ site.draws := by
  induction chain generalizing site with
  | nil =>
      cases leads
      exact mem_draws_cons_iff.mpr ⟨next, step, .inl ⟨rfl, link⟩⟩
  | cons branch' chain ih =>
      obtain ⟨middle, first, leads⟩ := Option.bind_eq_some_iff.mp leads
      exact mem_draws_cons_iff.mpr ⟨middle, first, .inr (ih leads)⟩

end Site

section Decides

variable {setting : Setting} {t : Template} {row : Row} {result : Scope} {first last : Nat}
variable {chain place : List Branch} {symbol id : String} {mint : Mint}

/-- An identifier from the source of the circumstances is decided by them. -/
theorem Mint.decides_of (stands : result.StandsFor setting.language t chain symbol id)
    (gives : (mint.source setting symbol).Gives setting.fresh id)
    (drawn : mint.isRandom symbol = true →
      ∃ i, (Site.root t row).draws[i]? = some (place, symbol) ∧ id = setting.fresh (first + i)) :
    mint.Decides setting t row result first chain symbol place := by
  refine ⟨fun value supplied => ?_, fun unsupplied hashed => ?_, fun unsupplied random => ?_⟩
  · rw [Mint.source, IdSource.of_eq_bound supplied] at gives
    exact gives ▸ stands
  · rw [Mint.source_eq_digest hashed unsupplied] at gives
    exact gives ▸ stands
  · obtain ⟨i, drawAt, rfl⟩ := drawn (Mint.isRandom_iff.mpr ⟨unsupplied, random⟩)
    exact ⟨i, drawAt, stands⟩

/-- The identifier that the scope at the place of a draw has for the drawn symbol is the one with
the number of the draw. -/
theorem Dealt.exists_draw
    (dealt : Dealt (result.HasDrawn setting.fresh) (Site.root t row).draws first last)
    (listed : (place, symbol) ∈ (Site.root t row).draws)
    (known : ∀ inner id', result.follow? place = some inner →
      Entries.get? symbol inner.identifiers = some id' → id = id') :
    ∃ i, (Site.root t row).draws[i]? = some (place, symbol) ∧ id = setting.fresh (first + i) := by
  obtain ⟨i, drawAt⟩ := List.getElem?_of_mem listed
  have numbered : ((place, symbol), first + i) ∈ (Site.root t row).draws.zipIdx first :=
    List.mk_add_mem_zipIdx_iff_getElem?.mpr drawAt
  obtain ⟨inner, reached, found⟩ := dealt.gets _ _ numbered
  exact ⟨i, drawAt, known inner _ reached found⟩

end Decides

namespace OwnSymbol

variable {setting : Setting} {t : Template} {row : Row} {result : Scope} {first last : Nat}

/-- A symbol has an identifier that the circumstances remembered by its site give, and stands for
it. -/
theorem exists_identifier (s : OwnSymbol t row) (positional : setting.mode.isDeterministic = false)
    (complete : t.Everywhere Template.IsComplete)
    (matched : (Site.root t row).Matches setting [] result) :
    ∃ inner id, result.follow? s.chain = some inner ∧
      Entries.get? s.symbol inner.identifiers = some id ∧
      ((s.site.mint s.symbol).source setting s.symbol).Gives setting.fresh id ∧
      result.StandsFor setting.language t s.chain s.symbol id := by
  obtain ⟨inner, seed, reached, innerMatches, _⟩ := matched.follow s.leads
  obtain ⟨id, known, gives⟩ := (innerMatches.holds positional).gives positional s.declared s.new
  exact ⟨inner, id, reached, known, gives,
    matched.standsFor complete s.leads reached innerMatches known⟩

/-- A symbol that is not linked on the way is identified by its site. -/
theorem decides_of_unlinked (s : OwnSymbol t row)
    (positional : setting.mode.isDeterministic = false)
    (complete : t.Everywhere Template.IsComplete)
    (matched : (Site.root t row).Matches setting [] result)
    (dealt : Dealt (result.HasDrawn setting.fresh) (Site.root t row).draws first last)
    (unlinked : t.lastLink? s.symbol s.chain = none) :
    s.site.ownMint.Decides setting t row result first s.chain s.symbol s.chain := by
  obtain ⟨inner, id, reached, known, gives, stands⟩ :=
    s.exists_identifier positional complete matched
  have forgotten : s.site.seeds.lookup s.symbol = none :=
    Site.lookup_seeds_of_follow? s.leads unlinked
  have own : s.site.mint s.symbol = s.site.ownMint := by
    rw [Site.mint, forgotten]
    rfl
  rw [own] at gives
  refine Mint.decides_of stands gives fun random => dealt.exists_draw ?_ ?_
  · exact Site.mem_draws_of_own s.leads
      (Site.mem_ownDraws_iff.mpr ⟨s.declared, s.new, notMem_of_lookup forgotten, random⟩)
  · intro drawn id' reached' found
    cases reached.symm.trans reached'
    exact Option.some.inj (known.symm.trans found)

/-- A symbol that is linked on the way is identified on entering the last branch that links it. -/
theorem decides_of_linked (s : OwnSymbol t row) (positional : setting.mode.isDeterministic = false)
    (complete : t.Everywhere Template.IsComplete)
    (matched : (Site.root t row).Matches setting [] result)
    (dealt : Dealt (result.HasDrawn setting.fresh) (Site.root t row).draws first last)
    {before after : List Branch} {branch : Branch} {outer : Site} {iteration : Iteration}
    {part : Template} {value : Datum} (chainEq : s.chain = before ++ branch :: after)
    (leads : (Site.root t row).follow? before = some outer)
    (linked : outer.template.branch? branch = some (s.symbol, iteration, part))
    (valueAt : (outer.derived.values iteration.source)[branch.element]? = some value)
    (beyond : part.lastLink? s.symbol after = none) :
    Mint.Decides setting t row result first s.chain s.symbol (before ++ [branch])
      ⟨outer.template.options, outer.derived.bind iteration.variableName value .iteration,
        some branch.element⟩ := by
  obtain ⟨inner, id, reached, known, gives, stands⟩ :=
    s.exists_identifier positional complete matched
  let next := outer.enter branch.element s.symbol iteration part value
  have step : outer.branch? branch = some next :=
    Site.branch?_eq_some_iff.mpr ⟨_, iteration, part, value, linked, valueAt, rfl⟩
  have entered : (Site.root t row).follow? (before ++ [branch]) = some next := by
    rw [Site.follow?_append, leads, Option.bind_some]
    exact Option.bind_eq_some_iff.mpr ⟨next, step, rfl⟩
  have chainEq : s.chain = (before ++ [branch]) ++ after := by simp [chainEq]
  have onward : next.follow? after = some s.site := by
    have leads := s.leads
    rwa [chainEq, Site.follow?_append, entered] at leads
  have linking : s.site.mint s.symbol = ⟨outer.template.options,
      outer.derived.bind iteration.variableName value .iteration, some branch.element⟩ := by
    rw [Site.mint, Site.lookup_seeds_of_follow? onward beyond]
    simp [next, Site.enter]
  rw [linking] at gives
  refine Mint.decides_of stands gives fun random => dealt.exists_draw ?_ ?_
  · exact Site.mem_draws_of_link leads step (Site.mem_linkDraws_iff.mpr ⟨_, _, rfl, random⟩)
  · intro drawn id' reachedLink found
    -- What is drawn on entering the branch is kept up to the scope of the symbol.
    obtain ⟨_, _, reachedLink', nextMatches, _⟩ := matched.follow entered
    cases reachedLink.symm.trans reachedLink'
    obtain ⟨inner', _, reachedAfter, _, found'⟩ := nextMatches.kept onward (.inr beyond) found
    have same : result.follow? s.chain = some inner' := by
      rw [chainEq, Scope.follow?_append, reachedLink]
      exact reachedAfter
    cases reached.symm.trans same
    exact Option.some.inj (known.symm.trans found')

end OwnSymbol

/-- Which options decide the identifiers of a row, where they do not depend on content. Every random
identifier is taken for a draw of its own, in the order of the draws. If no branch on the way into a
scope links a symbol that the scope declares and no scope around does, then the scope's own options
decide: a digest of the position if they ask for it, a random identifier drawn in the scope if not.
Otherwise the options of the scope around the last branch that links the symbol decide instead,
about the digest or the draw on entering that branch, and the scope's own options do not matter. In
either case what a column supplies under the same circumstances comes first. -/
theorem own_options_unless_linked (setting : Setting) (t : Template) (header : Header)
    (cells : List Datum) (progress : Progress) (expansion : Expansion) (mode : setting.mode = .none)
    (loaded : t.IsLoaded) (done : (expandRow setting t header cells progress).1 = .ok expansion) :
    ∃ result progress',
      (Expanding.row setting t header cells).run progress = (.ok result, progress') ∧
      expansion = result.expansion setting.language ∧
      let root := Site.root t { header, cells }
      root.draws.Nodup ∧ progress'.minted = progress.minted + root.draws.length ∧
      ∀ s : OwnSymbol t { header, cells },
        (t.lastLink? s.symbol s.chain = none ∧
          s.site.ownMint.Decides setting t { header, cells } result progress.minted s.chain s.symbol
            s.chain) ∨
        ∃ before branch after outer iteration inner value,
          s.chain = before ++ branch :: after ∧ root.follow? before = some outer ∧
          outer.template.branch? branch = some (s.symbol, iteration, inner) ∧
          (outer.derived.values iteration.source)[branch.element]? = some value ∧
          inner.lastLink? s.symbol after = none ∧
          Mint.Decides setting t { header, cells } result progress.minted s.chain s.symbol
            (before ++ [branch]) ⟨outer.template.options,
              outer.derived.bind iteration.variableName value .iteration, some branch.element⟩ := by
  have positional : setting.mode.isDeterministic = false := by simp [mode, Mode.isDeterministic]
  obtain ⟨result, progress', yields, rfl⟩ := exists_scope_of_expandRow done
  have matched : (Site.root t { header, cells }).Matches setting [] result :=
    .root ⟨progress, progress', yields⟩
  have dealt :=
    Site.dealsOut positional (Site.root t { header, cells }) [] result progress progress'
      matched.names yields
  refine ⟨result, progress', yields, rfl, Site.nodup_draws _, dealt.count, fun s => ?_⟩
  by_cases unlinked : t.lastLink? s.symbol s.chain = none
  · exact .inl ⟨unlinked, s.decides_of_unlinked positional loaded.complete matched dealt unlinked⟩
  · obtain ⟨before, branch, after, outer, iteration, part, value, chainEq, leads, linked, valueAt,
      beyond⟩ := Site.exists_lastLink s.leads unlinked
    exact .inr ⟨before, branch, after, outer, iteration, part, value, chainEq, leads, linked,
      valueAt, beyond, s.decides_of_linked positional loaded.complete matched dealt chainEq leads
        linked valueAt beyond⟩

/-! ### Pets with collars -/

/-- An owner with pets, each of which has a collar. Only the subtemplate asks for digests. -/
def collarsDocument : Document :=
  .map [("TEMPLATE", .sequence [.sequence [.text "Owner", .map [("GENSYM", .text "owner"),
      ("SUBTEMPLATE_pets.GENSYM_pet", .text "keeps")]]]),
    ("SUBTEMPLATES", .map [("pets", .map [
      ("TEMPLATE", .sequence [.sequence [.text "Pet", .map [("GENSYM", .text "pet")]],
        .sequence [.text "Collar", .map [("GENSYM", .text "collar")]]]),
      ("ITERABLE", .sequence [.sequence [.text "pets", .text "animal"]]),
      ("OPTIONS", .map [("HASHED_IDS", .bool true)])])])]

def collarTemplate : Template :=
  ⟨[⟨"Pet", "pet", [⟨.type, []⟩]⟩, ⟨"Collar", "collar", [⟨.type, []⟩]⟩], [], [],
    ⟨true, false, defaultLookupClasses⟩⟩

def collarsTemplate : Template :=
  ⟨[⟨"Owner", "owner", [⟨.type, []⟩, ⟨.repeated "pets" "pet", ["keeps"]⟩]⟩],
    [("pets", ⟨"pets", "animal"⟩, collarTemplate)], [], {}⟩

theorem collarsTemplate_isLoaded : collarsTemplate.IsLoaded := ⟨true, collarsDocument, rfl⟩

def collarsRow : Row :=
  ⟨⟨["pets"]⟩, [.text "Rex"], []⟩

def collarSite : Site :=
  ⟨collarTemplate, collarsRow.bind "animal" (.text "Rex") .iteration, some 0, ["owner"],
    [("pet", ⟨{}, collarsRow.bind "animal" (.text "Rex") .iteration, some 0⟩)]⟩

def collarDigest (symbol : String) : String :=
  Digest.contentId (Position.content ⟨"people_0.nt", 0, some 0⟩ symbol)

/-- The collar of the pet, which is not linked from outside. -/
def rexCollar : OwnSymbol collarsTemplate collarsRow where
  chain := [⟨0, 1, 0⟩]
  symbol := "collar"
  site := collarSite
  leads := rfl
  declared := by decide
  new := by decide

/-- The identifier of the collar is a digest, as the options of its scope have it. -/
theorem own_options_unless_linked_collars :
    recordSetting.mode = .none ∧ collarsTemplate.IsLoaded ∧ ∃ expansion,
      (expandRow recordSetting collarsTemplate collarsRow.header collarsRow.cells {}).1 =
        .ok expansion ∧
      ∃ result : Scope, expansion = result.expansion recordSetting.language ∧
        result.StandsFor recordSetting.language collarsTemplate [⟨0, 1, 0⟩] "collar"
          (collarDigest "collar") := by
  have done : ∃ expansion, (expandRow recordSetting collarsTemplate collarsRow.header
      collarsRow.cells {}).1 = .ok expansion := ⟨_, rfl⟩
  obtain ⟨expansion, done⟩ := done
  obtain ⟨result, _, _, same, _, _, decides⟩ := own_options_unless_linked recordSetting
    collarsTemplate _ _ {} expansion rfl collarsTemplate_isLoaded done
  refine ⟨rfl, collarsTemplate_isLoaded, expansion, done, result, same, ?_⟩
  rcases decides rexCollar with ⟨_, own⟩ |
    ⟨before, branch, after, outer, iteration, inner, value, chainEq, leads, linked, _⟩
  · refine own.hashed ?_ rfl
    rintro value ⟨derived, _⟩
    cases derived
  · -- The only branch on the way links the pet, not the collar.
    cases before with
    | nil =>
        cases chainEq
        cases leads
        have pet : collarsTemplate.branch? ⟨0, 1, 0⟩ =
          some ("pet", ⟨"pets", "animal"⟩, collarTemplate) := rfl
        have same : "pet" = "collar" := congrArg Prod.fst (Option.some.inj (pet.symm.trans linked))
        exact absurd same (by decide)
    | cons first before =>
        have none := (List.cons.inj chainEq).2
        simp at none

def collarsScope : Scope :=
  .mk [("owner", "0")] []
    [.mk "0" "Owner" [.type, .repeated ["keeps"]
      [("1", .mk [("owner", "0"), ("pet", "1"), ("collar", collarDigest "collar")] []
        [.mk "1" "Pet" [.type], .mk (collarDigest "collar") "Collar" [.type]])]]]

/-- The scope of the pet asks for digests, declares the pet and is not supplied with it, and yet the
pet and the link to it have a random identifier. -/
theorem not_standsFor_linked_pet :
    collarsTemplate.IsLoaded ∧ recordSetting.mode = .none ∧
    (Expanding.row recordSetting collarsTemplate collarsRow.header collarsRow.cells).run {} =
      (.ok collarsScope, ⟨2, []⟩) ∧
    (Site.root collarsTemplate collarsRow).follow? [⟨0, 1, 0⟩] = some collarSite ∧
    "pet" ∈ collarSite.template.symbols ∧ "pet" ∉ collarSite.around ∧
    (∀ value, ¬collarSite.derived.Supplies "pet" value) ∧
    collarSite.template.options.hashedIds = true ∧
    ¬collarsScope.StandsFor recordSetting.language collarsTemplate [⟨0, 1, 0⟩] "pet"
      (collarDigest "pet") := by
  refine ⟨collarsTemplate_isLoaded, rfl, rfl, rfl, by decide, by decide, ?_, rfl, fun stands => ?_⟩
  · rintro value ⟨derived, _⟩
    cases derived
  · obtain ⟨entity, found, same, _⟩ := stands.entities 0 ⟨"Pet", "pet", [⟨.type, []⟩]⟩ rfl rfl
    obtain rfl : entity = .mk "1" "Pet" [.type] := (Option.some.inj found).symm
    have different : collarDigest "pet" ≠ "1" := by decide +kernel
    exact different same.symm

end RowTriples
