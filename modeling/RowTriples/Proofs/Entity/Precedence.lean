import RowTriples.Proofs.Entity.Geocoding
import RowTriples.Proofs.Entity.Rendered
/-!
# Explicit data and geocoded data

What a lookup offers is added where the slot is free, and it is free unless a rule of the scope or
of a scope behind it has filled it. The scopes around and beside have no say. Where two of them
share an entity, because its symbol is handed on or its identifier comes out the same, a slot can
thus be filled twice: by a rule of one and for a lookup of the other. Explicit data wins in the
whole row exactly if this does not happen, so it does if only the outermost template looks anything
up.
-/

namespace RowTriples

open Expanding

namespace Scope

variable (language : Language) (result : Scope) (chain : List Branch) (s : Statement)

/-- A rule of the scope that the chain leads to states the statement. -/
def StatesAt : Prop :=
  ∃ inner, result.follow? chain = some inner ∧ inner.States language s

/-- A lookup of the scope that the chain leads to offers the statement. -/
def OffersAt : Prop :=
  ∃ inner, result.follow? chain = some inner ∧ ∃ lookup ∈ inner.lookups, lookup.Offers language s

/-- The statement is added for a lookup of the scope that the chain leads to. -/
def AddsAt : Prop :=
  ∃ inner, result.follow? chain = some inner ∧ s ∈ inner.lookupStatements language

/-- No statement that is added for a lookup has the slot of a statement of a rule, wherever in the
row these are. -/
def ExplicitWins : Prop :=
  ∀ chain chain' addition stated, result.AddsAt language chain addition →
    result.StatesAt language chain' stated → stated.sameSlot addition = false

/-- Where a lookup offers to fill a slot that a rule fills anywhere in the row, a rule of the scope
itself or of a scope behind it fills that slot. -/
def AnswersForOffers : Prop :=
  ∀ chain chain' candidate stated, result.OffersAt language chain candidate →
    result.StatesAt language chain' stated → stated.sameSlot candidate = true →
    ∃ beyond filling, result.StatesAt language (chain ++ beyond) filling ∧
      filling.sameSlot candidate = true

/-- The scopes that the two chains lead to have entities with the same token, of which the statement
is about the former. -/
def MeetsAt (chain' : List Branch) : Prop :=
  ∃ inner outer entity entity', result.follow? chain = some inner ∧
    result.follow? chain' = some outer ∧ entity ∈ inner.entities ∧ entity' ∈ outer.entities ∧
    language.vocabulary.resource entity.id = s.subject ∧
    language.vocabulary.resource entity'.id = s.subject

end Scope

/-! ### Which statements are whose -/

section Statements

variable {language : Language} {result inner : Scope} {chain beyond : List Branch}
variable {s stated addition : Statement}

theorem Scope.statesAt_append (reached : result.follow? chain = some inner) :
    result.StatesAt language (chain ++ beyond) s ↔ inner.StatesAt language beyond s := by
  simp only [StatesAt, follow?_append, reached, Option.bind_some]

theorem Scope.States.mem (h : result.States language s) : s ∈ result.ruleStatements language := by
  obtain ⟨entity, entityMember, fact, factMember, told⟩ := h
  exact mem_ruleStatements_iff.mpr ⟨entity, entityMember, fact, factMember, told.mem⟩

/-- The statements of the rules of a scope and of the scopes behind it come before its additions. -/
theorem Scope.StatesAt.mem (h : result.StatesAt language chain s) :
    s ∈ result.ruleStatements language := by
  obtain ⟨inner, reached, states⟩ := h
  cases chain with
  | nil =>
      cases reached
      exact states.mem
  | cons branch chain =>
      obtain ⟨⟨id, middle⟩, found, reached⟩ := Option.bind_eq_some_iff.mp reached
      obtain ⟨entity, predicates, occurrences, entityAt, factAt, occurrenceAt⟩ :=
        Scope.branch?_eq_some_iff.mp found
      have written : s ∈ middle.statements language := by
        apply mem_statements_of_follow? reached
        rw [statements_eq]
        exact List.mem_append_left _ states.mem
      refine mem_ruleStatements_iff.mpr ⟨entity, List.mem_of_getElem? entityAt, _,
        List.mem_of_getElem? factAt, ?_⟩
      exact mem_statementsOfOccurrences (List.mem_of_getElem? occurrenceAt) (.inr written)

/-- The statements of a row are those of its rules and those added for its lookups. -/
theorem Scope.mem_statements_iff : s ∈ result.statements language ↔
    ∃ chain, result.StatesAt language chain s ∨ result.AddsAt language chain s := by
  constructor
  · intro written
    obtain ⟨chain, inner, reached, states | added⟩ := result.exists_source written
    · exact ⟨chain, .inl ⟨inner, reached, states⟩⟩
    · exact ⟨chain, .inr ⟨inner, reached, added⟩⟩
  · rintro ⟨chain, states | ⟨inner, reached, added⟩⟩
    · rw [statements_eq]
      exact List.mem_append_left _ states.mem
    · apply mem_statements_of_follow? reached
      rw [statements_eq]
      exact List.mem_append_right _ added

theorem Scope.AddsAt.offersAt (h : result.AddsAt language chain s) :
    result.OffersAt language chain s := by
  obtain ⟨inner, reached, added⟩ := h
  obtain ⟨lookup, member, offered⟩ := List.mem_flatMap.mp (free_of_mem_additions added).1
  exact ⟨inner, reached, lookup, member, Lookup.mem_candidates_iff.mp offered⟩

/-- Within a scope and behind it, explicit data always wins. -/
theorem Scope.AddsAt.free (h : result.AddsAt language chain addition)
    (states : result.StatesAt language (chain ++ beyond) stated) :
    stated.sameSlot addition = false := by
  obtain ⟨inner, reached, added⟩ := h
  rw [statesAt_append reached] at states
  exact (free_of_mem_additions added).2 stated states.mem

/-- What a lookup offers finds its slot taken, by a rule or by an addition, in the scope or behind
it. -/
theorem Scope.OffersAt.exists_taken (h : result.OffersAt language chain s) :
    ∃ beyond taken, (result.StatesAt language (chain ++ beyond) taken ∨
      result.AddsAt language (chain ++ beyond) taken) ∧ taken.sameSlot s = true := by
  obtain ⟨inner, reached, lookup, member, offers⟩ := h
  have offered : s ∈ inner.lookups.flatMap (Lookup.candidates language) :=
    List.mem_flatMap.mpr ⟨lookup, member, Lookup.mem_candidates_iff.mpr offers⟩
  have occupied : ∃ taken ∈ fillSlots (inner.ruleStatements language)
      (inner.lookups.flatMap (Lookup.candidates language)), taken.sameSlot s = true :=
    exists_sameSlot_fillSlots offered
  obtain ⟨taken, written, same⟩ := occupied
  rw [fillSlots_eq] at written
  change taken ∈ inner.ruleStatements language ++ inner.lookupStatements language at written
  rw [← statements_eq, mem_statements_iff] at written
  obtain ⟨beyond, states | ⟨last, follows, added⟩⟩ := written
  · exact ⟨beyond, taken, .inl ((statesAt_append reached).mpr states), same⟩
  · refine ⟨beyond, taken, .inr ⟨last, ?_, added⟩, same⟩
    rw [follow?_append, reached, Option.bind_some, follows]

/-- Explicit data wins exactly if every scope with lookups can answer for their offers alone. -/
theorem Scope.explicitWins_iff :
    result.ExplicitWins language ↔ result.AnswersForOffers language := by
  constructor
  · intro wins chain chain' candidate stated offers states same
    obtain ⟨beyond, taken, fills | adds, taken_same⟩ := offers.exists_taken
    · exact ⟨beyond, taken, fills, taken_same⟩
    · -- An addition in this slot would be one in a slot of the row's rules.
      have slot : stated.sameSlot taken = true := by
        rw [Statement.sameSlot_iff] at same taken_same ⊢
        exact ⟨same.1.trans taken_same.1.symm, same.2.trans taken_same.2.symm⟩
      have free := wins _ _ _ _ adds states
      rw [slot] at free
      cases free
  · intro answers chain chain' addition stated adds states
    by_contra taken
    rw [Bool.not_eq_false] at taken
    obtain ⟨beyond, filling, fills, same⟩ := answers _ _ _ _ adds.offersAt states taken
    rw [adds.free fills] at same
    cases same

end Statements

/-! ### Lookups of a scope -/

section Lookups

variable {setting : Setting} {t : Template} {row : Row} {inherited : Identifiers}
variable {element : Option Nat} {result : Scope} {lookup : Lookup}

/-- Every lookup of a scope is made for one of its entities. -/
theorem Expanding.Expands.exists_entity_of_lookup
    (h : Expands setting t row inherited element result) (member : lookup ∈ result.lookups) :
    ∃ entity ∈ result.entities, entity.id = lookup.id := by
  obtain ⟨_, _, looked⟩ := h.lookups
  obtain ⟨entry, listed, known, _⟩ := yields_lookUpAll looked member
  obtain ⟨entity, entityMember, instantiates⟩ := exists_of_mem_left h.run.2 listed
  exact ⟨entity, entityMember, Option.some.inj (instantiates.id.symm.trans known)⟩

/-- A template that looks nothing up has no lookups. -/
theorem Expanding.Expands.not_mem_lookups (h : Expands setting t row inherited element result)
    (off : t.options.lookup = false) : lookup ∉ result.lookups := by
  intro member
  obtain ⟨_, _, looked⟩ := h.lookups
  obtain ⟨entry, _, _, address⟩ := yields_lookUpAll looked member
  simp [addressQuery?, Options.looksUp, off] at address

end Lookups

/-! ### Explicit data in a row -/

section Row

variable {setting : Setting} {t : Template} {row : Row} {result : Scope}
variable {chain chain' : List Branch} {stated addition : Statement}

/-- An addition in the slot of a rule is about an entity that both scopes have. -/
theorem Scope.AddsAt.meetsAt (expanded : Expands setting t row [] none result)
    (adds : result.AddsAt setting.language chain addition)
    (states : result.StatesAt setting.language chain' stated)
    (same : stated.sameSlot addition = true) :
    result.MeetsAt setting.language chain addition chain' := by
  obtain ⟨inner, reached, lookup, member, offers⟩ := adds.offersAt
  obtain ⟨outer, reached', entity', entityMember', fact, _, told⟩ := states
  obtain ⟨next, seed, _, holds⟩ := (Site.Matches.root expanded).exists_site reached
  obtain ⟨entity, entityMember, id⟩ := holds.expands.exists_entity_of_lookup member
  obtain ⟨feature, _, offered⟩ := exists_match_of_offered (Lookup.mem_candidates_iff.mpr offers)
  refine ⟨inner, outer, entity, entity', reached, reached', entityMember, entityMember', ?_, ?_⟩
  · rw [offered.subject, id, Lookup.subject]
  · rw [← (Statement.sameSlot_iff.mp same).1, told.subject]

/-- If only the outermost template looks anything up, explicit data wins. -/
theorem Scope.explicitWins_of_outermost (expanded : Expands setting t row [] none result)
    (nested : ∀ part ∈ t.subtemplates, part.2.2.Everywhere fun inner =>
      inner.options.lookup = false) :
    result.ExplicitWins setting.language := by
  intro chain chain' addition stated adds states
  cases chain with
  | nil =>
      have beyond : result.StatesAt setting.language ([] ++ chain') stated := states
      exact adds.free beyond
  | cons branch chain =>
      obtain ⟨inner, reached, lookup, member, _⟩ := adds.offersAt
      obtain ⟨next, seed, leads, holds⟩ := (Site.Matches.root expanded).exists_site reached
      obtain ⟨part, found, followed⟩ := Option.bind_eq_some_iff.mp (Site.template_follow? leads)
      obtain ⟨_, _, _, _, _, listed⟩ := Template.branch?_eq_some_iff.mp found
      have off := ((nested _ (mem_of_lookup listed)).of_follow? followed).here
      exact absurd member (holds.expands.not_mem_lookups off)

/-- What a row says is what its rules state and what is added for its lookups. Explicit data wins,
throughout the row, exactly if every offer for a slot of the row meets a rule of its own scope or of
a scope behind it; so it does if no nested template looks anything up. Otherwise the slot is one of
an entity that the scope of the lookup shares with a scope around or beside it. -/
theorem explicit_wins_iff (setting : Setting) (t : Template) (header : Header) (cells : List Datum)
    (progress : Progress) (expansion : Expansion)
    (done : (expandRow setting t header cells progress).1 = .ok expansion) :
    ∃ result progress',
      (Expanding.row setting t header cells).run progress = (.ok result, progress') ∧
      expansion = result.expansion setting.language ∧
      (∀ s, s ∈ expansion.statements ↔ ∃ chain,
        result.StatesAt setting.language chain s ∨ result.AddsAt setting.language chain s) ∧
      (result.ExplicitWins setting.language ↔ result.AnswersForOffers setting.language) ∧
      ((∀ part ∈ t.subtemplates, part.2.2.Everywhere fun inner => inner.options.lookup = false) →
        result.ExplicitWins setting.language) ∧
      ∀ chain chain' addition stated, result.AddsAt setting.language chain addition →
        result.StatesAt setting.language chain' stated → stated.sameSlot addition = true →
        ¬chain <+: chain' ∧ result.MeetsAt setting.language chain addition chain' := by
  obtain ⟨result, progress', yields, rfl⟩ := exists_scope_of_expandRow done
  have expanded : Expands setting t { header, cells } [] none result :=
    ⟨progress, progress', yields⟩
  refine ⟨result, progress', yields, rfl, fun s => Scope.mem_statements_iff,
    Scope.explicitWins_iff, Scope.explicitWins_of_outermost expanded, ?_⟩
  intro chain chain' addition stated adds states same
  refine ⟨?_, adds.meetsAt expanded states same⟩
  rintro ⟨beyond, rfl⟩
  rw [adds.free states] at same
  cases same

end Row

/-! ### A place in two scopes -/

/-- A place with a city, and notes that add its address line. -/
def placeTemplate (around notes : Options) : Template :=
  ⟨[⟨"AddressLocation", "place", [⟨.type, []⟩, ⟨.column "city", ["locationCity"]⟩,
      ⟨.repeated "notes" "note", ["hasNote"]⟩]⟩],
    [("notes", ⟨"lines", "line"⟩,
      ⟨[⟨"Note", "note", [⟨.type, []⟩]⟩, ⟨"AddressLocation", "place", [⟨.type, []⟩,
        ⟨.column "line", ["locationAddressFullText"]⟩]⟩], [], [], notes⟩)], [], around⟩

def placeSetting : Setting :=
  let found : Feature :=
    { properties := { placeRank := 30, address := [("city", .string "Shelbyville")] } }
  recordSetting.asking (some fun _ _ => .ok ⟨[found]⟩)

theorem explicit_wins_iff_place :
    ∃ expansion, (expandRow placeSetting (placeTemplate { lookup := true } {}) ⟨["city", "lines"]⟩
      [.text "Springfield", .text "1 Main Street"] {}).1 = .ok expansion ∧
      ∃ result : Scope, expansion = result.expansion placeSetting.language ∧
        result.ExplicitWins placeSetting.language := by
  have done : ∃ expansion, (expandRow placeSetting (placeTemplate { lookup := true } {})
      ⟨["city", "lines"]⟩ [.text "Springfield", .text "1 Main Street"] {}).1 = .ok expansion :=
    ⟨_, rfl⟩
  obtain ⟨expansion, done⟩ := done
  obtain ⟨result, _, _, same, _, _, outermost, _⟩ := explicit_wins_iff placeSetting
    (placeTemplate { lookup := true } {}) _ _ {} expansion done
  refine ⟨expansion, done, result, same, outermost ?_⟩
  simp only [placeTemplate, List.mem_singleton, forall_eq]
  exact .intro rfl nofun

/-- The place where the notes look it up. -/
def placeDocument : Document :=
  .map [("TEMPLATE", .sequence [.sequence [.text "AddressLocation", .map [
      ("GENSYM", .text "place"), ("city", .text "locationCity"),
      ("SUBTEMPLATE_notes.GENSYM_note", .text "hasNote")]]]),
    ("SUBTEMPLATES", .map [("notes", .map [
      ("TEMPLATE", .sequence [.sequence [.text "Note", .map [("GENSYM", .text "note")]],
        .sequence [.text "AddressLocation", .map [("GENSYM", .text "place"),
          ("line", .text "locationAddressFullText")]]]),
      ("OPTIONS", .map [("GEOLOOKUP", .bool true)]),
      ("ITERABLE", .sequence [.sequence [.text "lines", .text "line"]])])])]

def noteScope : Scope :=
  .mk [("place", "0"), ("note", "1")]
    [⟨"0", .freeText "1 Main Street", .matched
      { properties := { placeRank := 30, address := [("city", .string "Shelbyville")] } }⟩]
    [.mk "1" "Note" [.type], .mk "0" "AddressLocation"
      [.type, .values ["locationAddressFullText"] [.text "1 Main Street"]]]

def placeScope : Scope :=
  .mk [("place", "0")] [] [.mk "0" "AddressLocation"
    [.type, .values ["locationCity"] [.text "Springfield"], .repeated ["hasNote"]
      [("1", noteScope)]]]

/-- The note does not know that the scope around has the city already. -/
theorem not_explicitWins_place :
    (placeTemplate {} { lookup := true }).IsLoaded ∧
    (Expanding.row placeSetting (placeTemplate {} { lookup := true }) ⟨["city", "lines"]⟩
      [.text "Springfield", .text "1 Main Street"]).run {} =
        (.ok placeScope, ⟨2, [.freeText "1 Main Street"]⟩) ∧
    ¬placeScope.ExplicitWins placeSetting.language := by
  refine ⟨⟨true, placeDocument, rfl⟩, rfl, ?_⟩
  intro wins
  let place := placeSetting.language.vocabulary.resource "0"
  let city := placeSetting.language.vocabulary.resource Address.city
  have adds : placeScope.AddsAt placeSetting.language [⟨0, 2, 0⟩]
      ⟨place, city, "\"Shelbyville\""⟩ := by
    refine ⟨noteScope, rfl, ?_⟩
    decide +kernel
  have states : placeScope.StatesAt placeSetting.language []
      ⟨place, city, "\"Springfield\""⟩ := by
    refine ⟨placeScope, rfl, _, List.mem_singleton_self _, .values [Address.city]
      [.text "Springfield"], List.mem_cons_of_mem _ List.mem_cons_self, ?_⟩
    have literal : placeSetting.language.literal Address.city (.text "Springfield") =
        .ok "\"Springfield\"" := rfl
    exact .value (List.mem_singleton_self _) (List.mem_singleton_self _) literal
  have free := wins _ _ _ _ adds states
  simp [Statement.sameSlot] at free

end RowTriples
