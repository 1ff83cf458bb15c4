import RowTriples.Proofs.Entity.Sites
/-!
# Identifiers that bindings supply

A binding may derive the identifier of a symbol under the symbol's name. A scope that has to
identify the symbol itself takes it over, in every mode. But where identifiers do not depend on
content, a symbol that a repetition links is identified before the repetition is entered, from the
columns that are visible outside. What the bindings inside derive for it then comes too late.

So the mode does not matter for a supplied symbol exactly as long as no link stands between: neither
on the way into the scope that declares it, nor on the way from there to the scope that refers to
it. Where there is one, the columns visible at the last link decide.
-/

namespace RowTriples

open Expanding

/-- A symbol at a site that declares it, where no scope around declares it and a binding derives a
value for it. -/
structure SuppliedSymbol (t : Template) (row : Row) where
  chain : List Branch
  symbol : String
  value : Datum
  site : Site
  leads : (Site.root t row).follow? chain = some site
  declared : symbol ∈ site.template.symbols
  /-- No scope around declares the symbol. -/
  new : symbol ∉ site.around
  supplied : site.derived.Supplies symbol value

def Template.entry? (t : Template) (chain : List Branch) (k : Nat) : Option Entry :=
  (t.follow? chain).bind fun inner => inner.entries[k]?

def Scope.entity? (result : Scope) (chain : List Branch) (k : Nat) : Option Entity :=
  (result.follow? chain).bind fun inner => inner.entities[k]?

/-- In the scope that a chain leads to, the symbol stands for the identifier: every entry under the
symbol is an entity with that identifier, which is the subject of a statement about its class; every
rule that names the symbol is a link to it; and so is the link into the scope, if it is a link to
the symbol. -/
structure Scope.StandsFor (language : Language) (t : Template) (result : Scope)
    (chain : List Branch) (symbol id : String) : Prop where
  entities : ∀ (k : Nat) (entry : Entry), t.entry? chain k = some entry → entry.symbol = symbol →
    ∃ entity, result.entity? chain k = some entity ∧ entity.id = id ∧
      ⟨language.vocabulary.resource id, iriToken rdfType,
        language.vocabulary.resource entry.type⟩ ∈ result.statements language
  links : ∀ (k j : Nat) (entry : Entry) (predicates : List String),
    t.entry? chain k = some entry →
    entry.rules[j]? = some ⟨.symbol symbol, predicates⟩ →
    ∃ entity, result.entity? chain k = some entity ∧
      entity.facts[j]? = some (.link predicates id) ∧
      ∀ statement ∈ language.relate (language.vocabulary.resource entity.id) predicates
        (language.vocabulary.resource id), statement ∈ result.statements language
  entered : ∀ before branch outer part, chain = before ++ [branch] →
    t.follow? before = some outer → outer.branch? branch = some (symbol, part) →
    ∃ entity predicates occurrences inner, result.entity? before branch.entry = some entity ∧
      entity.facts[branch.rule]? = some (.repeated predicates occurrences) ∧
      occurrences[branch.element]? = some (id, inner) ∧
      ∀ statement ∈ language.relate (language.vocabulary.resource entity.id) predicates
        (language.vocabulary.resource id), statement ∈ result.statements language

/-! ### What a symbol stands for -/

section StandsFor

variable {setting : Setting} {language : Language} {t : Template} {row : Row}
variable {result inner : Scope} {site : Site} {seed : Identifiers} {chain : List Branch}
variable {symbol id : String}

/-- A symbol stands for the identifier that the scope has for it. -/
theorem Site.Matches.standsFor (matched : (Site.root t row).Matches setting [] result)
    (complete : t.Everywhere Template.IsComplete)
    (leads : (Site.root t row).follow? chain = some site)
    (reached : result.follow? chain = some inner) (holds : site.Matches setting seed inner)
    (known : Entries.get? symbol inner.identifiers = some id) :
    result.StandsFor language t chain symbol id := by
  have followed : t.follow? chain = some site.template := Site.template_follow? leads
  refine ⟨?_, ?_, ?_⟩
  · intro k entry entryAt same
    simp only [Template.entry?, followed, Option.bind_some] at entryAt
    obtain ⟨entity, entityAt, instantiates⟩ := exists_of_getElem?_left holds.expands.run.2 entryAt
    have entityId : entity.id = id := by
      have found := instantiates.id
      rw [same, known] at found
      exact (Option.some.inj found).symm
    refine ⟨entity, by simp [Scope.entity?, reached, entityAt], entityId, ?_⟩
    have member := List.mem_of_getElem? entityAt
    have typed := holds.expands.typed (complete.of_follow? followed).here member
    have isTyping : result.IsTyping language ⟨language.vocabulary.resource entity.id,
        iriToken rdfType, language.vocabulary.resource entity.type⟩ :=
      ⟨chain, inner, entity, reached, member, typed, rfl⟩
    rw [← entityId, ← instantiates.type]
    exact isTyping.mem
  · intro k j entry predicates entryAt ruleAt
    simp only [Template.entry?, followed, Option.bind_some] at entryAt
    obtain ⟨entity, entityAt, instantiates⟩ := exists_of_getElem?_left holds.expands.run.2 entryAt
    obtain ⟨fact, factAt, becomes⟩ := exists_of_getElem?_left instantiates.facts ruleAt
    cases becomes with
    | @link _ id' _ found =>
        obtain rfl : id' = id := Option.some.inj (found.symm.trans known)
        refine ⟨entity, by simp [Scope.entity?, reached, entityAt], factAt, ?_⟩
        intro statement written
        have isLink : result.IsLink language statement :=
          ⟨chain, inner, entity, _, predicates, id', reached, List.mem_of_getElem? entityAt,
            List.mem_of_getElem? factAt, .link, written⟩
        exact isLink.mem
  · rintro before branch outerTemplate part rfl followedBefore linked
    rw [Site.follow?_append] at leads
    obtain ⟨middle, leadsBefore, last⟩ := Option.bind_eq_some_iff.mp leads
    obtain ⟨outer, _, reachedOuter, outerMatches, _⟩ := matched.follow leadsBefore
    obtain ⟨next, first, last⟩ := Option.bind_eq_some_iff.mp last
    obtain ⟨symbol', part', id', repetition, _, linked', occurrenceAt, found, _⟩ :=
      outerMatches.step first
    obtain ⟨outer', _, reachedOuter', occurrenceAt'⟩ := Scope.follow?_concat.mp reached
    obtain rfl : outer = outer' := Option.some.inj (reachedOuter.symm.trans reachedOuter')
    cases occurrenceAt.symm.trans occurrenceAt'
    obtain rfl : outerTemplate = middle.template :=
      Option.some.inj (followedBefore.symm.trans (Site.template_follow? leadsBefore))
    cases linked'.symm.trans linked
    obtain rfl : id' = id := Option.some.inj (found.symm.trans known)
    obtain ⟨entity, predicates, occurrences, entityAt, factAt, repetitionAt⟩ :=
      Scope.branch?_eq_some_iff.mp occurrenceAt
    refine ⟨entity, predicates, occurrences, inner, by simp [Scope.entity?, reachedOuter, entityAt],
      factAt, repetitionAt, fun statement written => ?_⟩
    have isLink : result.IsLink language statement :=
      ⟨before, outer, entity, _, predicates, id', reachedOuter, List.mem_of_getElem? entityAt,
        List.mem_of_getElem? factAt, .repeated (List.mem_of_getElem? repetitionAt), written⟩
    exact isLink.mem

end StandsFor

/-! ### Where the identifier comes from -/

section Supplied

variable {setting : Setting} {t : Template} {row : Row} {inherited ids : Identifiers}
variable {element : Option Nat} {symbol : String} {value : Datum}

/-- A scope that has to identify a symbol itself takes over what its columns supply, in every
mode. -/
theorem Expanding.Identifies.get?_of_supplies (h : Identifies setting t row inherited element ids)
    (declared : symbol ∈ t.symbols) (new : symbol ∉ Entries.names inherited)
    (supplied : (row.derive t.bindings).Supplies symbol value) :
    Entries.get? symbol ids = some value.plainText := by
  obtain ⟨_, _, yields⟩ := h
  cases mode : setting.mode.isDeterministic with
  | true =>
      have resolves := yields_identify_deterministic mode yields
      exact resolves.supplied symbol (mem_declaredSymbols.mp declared) new value supplied
  | false =>
      obtain ⟨id, found, gives⟩ :=
        (yields_identify_positional mode yields).given symbol declared new
      rw [IdSource.of_eq_bound supplied] at gives
      exact found.trans (congrArg some gives)

/-- In a scope behind the one that declares a supplied symbol, the symbol has the supplied
identifier if no link on the way named it; else it has the identifier given at the last such
link. -/
theorem SuppliedSymbol.identified {result : Scope} (s : SuppliedSymbol t row)
    (matched : (Site.root t row).Matches setting [] result) {beyond : List Branch} {next : Site}
    (found : s.site.follow? beyond = some next) :
    ∃ inner seed id, result.follow? (s.chain ++ beyond) = some inner ∧
      next.Matches setting seed inner ∧ Entries.get? s.symbol inner.identifiers = some id ∧
      ((next.relinked setting).lookup s.symbol = none → id = s.value.plainText) ∧
      ∀ mint, (next.relinked setting).lookup s.symbol = some mint →
        (mint.source setting s.symbol).Gives setting.fresh id := by
  have leads : (Site.root t row).follow? (s.chain ++ beyond) = some next := by
    rw [Site.follow?_append, s.leads, Option.bind_some, found]
  obtain ⟨inner, seed, reached, holds, _⟩ := matched.follow leads
  cases lookup : (next.relinked setting).lookup s.symbol with
  | some mint =>
      obtain ⟨id, known, gives⟩ := holds.linked s.symbol mint lookup
      have kept := holds.expands.run.1.kept (Entries.mem_names_of_get? known)
      refine ⟨inner, seed, id, reached, holds, kept.trans known, nofun, fun _ same => ?_⟩
      cases same
      exact gives
  | none =>
      obtain ⟨outer, inherited, reachedOuter, outerMatches, _⟩ := matched.follow s.leads
      have fresh : s.symbol ∉ Entries.names inherited := by
        rw [outerMatches.names, not_or]
        exact ⟨s.new, notMem_of_lookup (Site.not_relinked_of_follow? found lookup)⟩
      have known := outerMatches.expands.run.1.get?_of_supplies s.declared fresh s.supplied
      obtain ⟨inner', _, reached', _, kept⟩ := outerMatches.follow found
      have same : result.follow? (s.chain ++ beyond) = some inner' := by
        rw [Scope.follow?_append, reachedOuter, Option.bind_some, reached']
      obtain rfl : inner = inner' := Option.some.inj (reached.symm.trans same)
      exact ⟨inner, seed, _, reached, holds, kept _ _ lookup known, fun _ => rfl, nofun⟩

end Supplied

/-- What a symbol with a derived identifier stands for, in every row that expands. In the scope that
declares it and in every scope behind that, where content decides, it stands for the derived
identifier. Where content does not decide, it does so if no link on the way to that scope names the
symbol. Otherwise the columns that were visible at the last such link decide: it stands for what a
binding had derived under its name by then and, if there was nothing, for an identifier by
position. -/
theorem supplied_identifiers (setting : Setting) (t : Template) (header : Header)
    (cells : List Datum) (progress : Progress) (expansion : Expansion) (loaded : t.IsLoaded)
    (done : (expandRow setting t header cells progress).1 = .ok expansion) :
    ∃ result progress',
      (Expanding.row setting t header cells).run progress = (.ok result, progress') ∧
      expansion = result.expansion setting.language ∧
      ∀ (s : SuppliedSymbol t { header, cells }) (beyond : List Branch) (next : Site),
        s.site.follow? beyond = some next →
        let standsFor := result.StandsFor setting.language t (s.chain ++ beyond) s.symbol
        (setting.mode.isDeterministic = true → standsFor s.value.plainText) ∧
        (setting.mode.isDeterministic = false →
          match next.seeds.lookup s.symbol with
          | none => standsFor s.value.plainText
          | some mint =>
            (∀ value, mint.row.Supplies s.symbol value → standsFor value.plainText) ∧
            ((∀ value, ¬mint.row.Supplies s.symbol value) →
              if mint.options.hashedIds then
                standsFor (Digest.contentId
                  (Position.content ⟨setting.file, setting.row, mint.element⟩ s.symbol))
              else ∃ number, standsFor (setting.fresh number))) := by
  obtain ⟨result, progress', yields, rfl⟩ := exists_scope_of_expandRow done
  have matched : (Site.root t { header, cells }).Matches setting [] result :=
    .root ⟨progress, progress', yields⟩
  refine ⟨result, progress', yields, rfl, fun s beyond next found => ?_⟩
  obtain ⟨inner, seed, id, reached, holds, known, unlinked, linked⟩ := s.identified matched found
  have leads : (Site.root t { header, cells }).follow? (s.chain ++ beyond) = some next := by
    rw [Site.follow?_append, s.leads, Option.bind_some, found]
  have stands : result.StandsFor setting.language t (s.chain ++ beyond) s.symbol id :=
    matched.standsFor loaded.complete leads reached holds known
  intro standsFor
  refine ⟨fun mode => ?_, fun mode => ?_⟩
  · rw [Site.relinked_of_deterministic mode] at unlinked
    exact unlinked rfl ▸ stands
  · rw [Site.relinked_of_positional mode] at unlinked linked
    cases lookup : next.seeds.lookup s.symbol with
    | none => exact unlinked lookup ▸ stands
    | some mint =>
        have gives := linked mint lookup
        refine ⟨fun value supplied => ?_, fun unsupplied => ?_⟩
        · rw [Mint.source, IdSource.of_eq_bound supplied] at gives
          exact gives ▸ stands
        · unfold Mint.source IdSource.of at gives
          rw [Row.boundId?_eq_none_iff.mpr unsupplied] at gives
          split
          next hashed =>
            rw [if_pos hashed] at gives
            exact gives ▸ stands
          next random =>
            rw [if_neg random] at gives
            obtain ⟨number, rfl⟩ := gives
            exact ⟨number, stands⟩

/-! ### Pets with derived names -/

/-- An owner who keeps pets. Inside the repetition a binding derives the identifier of the pet from
the names of the owner and of the animal. -/
def namedPetsDocument : Document :=
  .map [("TEMPLATE", .sequence [.sequence [.text "Owner", .map [("GENSYM", .text "owner"),
      ("SUBTEMPLATE_pets.GENSYM_pet", .text "keeps")]]]),
    ("SUBTEMPLATES", .map [("pets", .map [
      ("TEMPLATE", .sequence [.sequence [.text "Pet", .map [("GENSYM", .text "pet")]]]),
      ("BIND", .map [("pet", .map [("FUNCTION", .text "Concatenate"),
        ("DATA", .map [("ColumnA", .text "name"), ("ColumnB", .text "animal")])])]),
      ("ITERABLE", .sequence [.sequence [.text "pets", .text "animal"]])])])]

def namedPetTemplate : Template :=
  ⟨[⟨"Pet", "pet", [⟨.type, []⟩]⟩], [], [⟨"pet", .concatenate "name" "animal"⟩], {}⟩

def namedPetsTemplate : Template :=
  ⟨[⟨"Owner", "owner", [⟨.type, []⟩, ⟨.repeated "pets" "pet", ["keeps"]⟩]⟩],
    [("pets", ⟨"pets", "animal"⟩, namedPetTemplate)], [], {}⟩

theorem namedPetsTemplate_isLoaded : namedPetsTemplate.IsLoaded := ⟨true, namedPetsDocument, rfl⟩

def namedPetsRow : Row :=
  ⟨⟨["name", "pets"]⟩, [.text "Ada", .text "Rex"], []⟩

def namedPet : SuppliedSymbol namedPetsTemplate namedPetsRow where
  chain := [⟨0, 1, 0⟩]
  symbol := "pet"
  value := .text "AdaRex"
  site := ⟨namedPetTemplate, namedPetsRow.bind "animal" (.text "Rex") .iteration, some 0, ["owner"],
    [("pet", ⟨{}, namedPetsRow.bind "animal" (.text "Rex") .iteration, some 0⟩)]⟩
  leads := rfl
  declared := by decide
  new := by decide
  supplied := ⟨rfl, rfl, rfl⟩

theorem supplied_identifiers_namedPets :
    namedPetsTemplate.IsLoaded ∧ ∃ expansion,
      (expandRow globalSetting namedPetsTemplate namedPetsRow.header namedPetsRow.cells {}).1 =
        .ok expansion ∧
      ∃ result : Scope, expansion = result.expansion globalSetting.language ∧
        result.StandsFor globalSetting.language namedPetsTemplate [⟨0, 1, 0⟩] "pet" "AdaRex" := by
  have done : ∃ expansion, (expandRow globalSetting namedPetsTemplate namedPetsRow.header
      namedPetsRow.cells {}).1 = .ok expansion := ⟨_, rfl⟩
  obtain ⟨expansion, done⟩ := done
  obtain ⟨result, _, _, same, stands⟩ := supplied_identifiers globalSetting namedPetsTemplate _ _ {}
    expansion namedPetsTemplate_isLoaded done
  exact ⟨namedPetsTemplate_isLoaded, expansion, done, result, same,
    (stands namedPet [] _ rfl).1 rfl⟩

def namedPetsScope : Scope :=
  .mk [("owner", "0")] []
    [.mk "0" "Owner" [.type, .repeated ["keeps"]
      [("1", .mk [("owner", "0"), ("pet", "1")] [] [.mk "1" "Pet" [.type]])]]]

/-- Where identifiers are chosen anew for every row, the same row expands, and the symbol of the pet
does not stand for the derived name: the pet and the link to it have a random identifier. -/
theorem not_standsFor_namedPets :
    namedPetsTemplate.IsLoaded ∧
    (Expanding.row recordSetting namedPetsTemplate namedPetsRow.header namedPetsRow.cells).run {} =
      (.ok namedPetsScope, ⟨2, []⟩) ∧
    ¬namedPetsScope.StandsFor recordSetting.language namedPetsTemplate namedPet.chain
      namedPet.symbol namedPet.value.plainText := by
  refine ⟨namedPetsTemplate_isLoaded, rfl, fun stands => ?_⟩
  obtain ⟨entity, found, same, _⟩ := stands.entities 0 ⟨"Pet", "pet", [⟨.type, []⟩]⟩ rfl rfl
  obtain rfl : entity = .mk "1" "Pet" [.type] := (Option.some.inj found).symm
  exact absurd same (by decide)

end RowTriples
