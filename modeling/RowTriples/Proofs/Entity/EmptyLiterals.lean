import RowTriples.Proofs.Entity.Precedence
import RowTriples.Proofs.NTriples.Nonempty
/-!
# Empty literals

Empty values are left out where the values of a column are taken and where an address is taken
apart, and a value that is not empty has a literal with a text. The full address of a match is the
exception: it is taken over as the geocoder gives it. So an empty literal tells of a match with an
empty full address, and there is one wherever that address is added, which is where its slot is free
and no earlier lookup offers another one for it.
-/

namespace RowTriples

open NTriples Expanding

/-- The statement is added for a lookup of the scope that the chain leads to, and it gives the full
address of the match, which is empty. -/
structure Scope.AddsEmptyAddressAt (language : Language) (result : Scope) (chain : List Branch)
    (s : Statement) (inner : Scope) (lookup : Lookup) (feature : Feature) : Prop where
  reached : result.follow? chain = some inner
  member : lookup ∈ inner.lookups
  matched : lookup.outcome = .matched feature
  empty : feature.properties.displayName = some ""
  statement : s = ⟨lookup.subject language, language.vocabulary.resource Address.fullText,
    plainLiteral ""⟩
  /-- No rule of the scope or of a scope behind it says anything in the slot. -/
  free : ∀ stated ∈ inner.ruleStatements language, stated.sameSlot s = false
  /-- No candidate before it does. -/
  first : (inner.lookups.flatMap (Lookup.candidates language)).find? (·.sameSlot s) = some s

/-! ### Additions -/

theorem Statement.sameSlot_congr {s t : Statement} (same : s.sameSlot t = true)
    (stated : Statement) :
    stated.sameSlot s = stated.sameSlot t := by
  obtain ⟨subject, predicate⟩ := sameSlot_iff.mp same
  rw [sameSlot, sameSlot, subject, predicate]

/-- What is added is the first candidate of each slot that is free. -/
theorem mem_additions_iff {statements candidates : List Statement} {s : Statement} :
    s ∈ additions statements candidates ↔
      (∀ stated ∈ statements, stated.sameSlot s = false) ∧
        candidates.find? (·.sameSlot s) = some s := by
  induction candidates generalizing statements with
  | nil => simp [additions]
  | cons candidate candidates ih =>
      rw [additions, List.find?_cons]
      by_cases same : candidate.sameSlot s = true
      · -- The candidate takes the slot of `s` if it is free, so nothing behind it can.
        have slots := Statement.sameSlot_congr same
        rw [same, Option.some.injEq]
        split
        next occupied =>
          obtain ⟨stated, member, meets⟩ := List.any_eq_true.mp occupied
          rw [slots] at meets
          have taken : ¬∀ stated ∈ statements, stated.sameSlot s = false :=
            fun free => by simp [free stated member] at meets
          rw [ih]
          exact ⟨fun h => absurd h.1 taken, fun h => absurd h.1 taken⟩
        next unoccupied =>
          have free : ∀ stated ∈ statements, stated.sameSlot s = false := by
            simpa [slots] using unoccupied
          rw [List.mem_cons, ih, List.forall_mem_append, List.forall_mem_singleton]
          constructor
          · rintro (rfl | ⟨⟨_, other⟩, _⟩)
            · exact ⟨free, rfl⟩
            · rw [same] at other
              cases other
          · rintro ⟨_, rfl⟩
            exact .inl rfl
      · have other : s ≠ candidate := by
          rintro rfl
          exact same s.sameSlot_self
        rw [Bool.not_eq_true] at same
        rw [same]
        split
        next => exact ih
        next =>
          rw [List.mem_cons, ih, List.forall_mem_append, List.forall_mem_singleton]
          simp [other, same]

/-! ### What scopes say -/

section Says

variable {setting : Setting} {t : Template} {row : Row} {inherited : Identifiers}
variable {element : Option Nat} {result : Scope} {language : Language} {s : Statement}

/-- The values of a fact are not empty. -/
theorem Expanding.Expands.isEmpty_of_values (h : Expands setting t row inherited element result)
    {entity : Entity} {predicates : List String} {values : List Datum}
    (entityMember : entity ∈ result.entities)
    (factMember : .values predicates values ∈ entity.facts)
    {value : Datum} (member : value ∈ values) : value.isEmpty = false := by
  obtain ⟨entry, entryMember, instantiates⟩ := exists_of_mem_right h.run.2 entityMember
  obtain ⟨rule, ruleMember, becomes⟩ := exists_of_mem_right instantiates.facts factMember
  cases becomes
  simpa using (List.mem_filter.mp member).2

/-- No rule states an empty literal. -/
theorem Scope.States.not_isLiteralOf (h : Expands setting t row inherited element result)
    (states : result.States language s) : ¬IsLiteralOf "" s.object := by
  obtain ⟨entity, entityMember, fact, factMember, told⟩ := states
  cases told with
  | type =>
      obtain ⟨iri, same⟩ := exists_resource_eq language.vocabulary entity.type
      exact fun empty => empty.ne_iriToken _ same
  | link links member =>
      obtain ⟨iri, same⟩ := exists_resource_eq language.vocabulary _
      exact fun empty => empty.ne_iriToken _ same
  | value member valueMember literal =>
      exact (Typing.tells_literal (h.isEmpty_of_values entityMember factMember valueMember)
        literal).not_isLiteralOf

/-- A part of an address that has a text has one that is not empty. -/
theorem Feature.ne_empty_of_partText? {part : Json} {text : String}
    (found : partText? part = some text) : text ≠ "" := by
  cases part with
  | string value =>
      simp only [partText?] at found
      split at found
      next => cases found
      next some =>
        cases found
        simpa using some
  | number n =>
      cases found
      exact mt String.ofList_eq_empty_iff.mp n.chars_ne_nil
  | _ => cases found

/-- Only an empty full address is an empty literal. -/
theorem Feature.Says.displayName_eq {subject : String} {feature : Feature}
    (told : feature.Says language subject s) (empty : IsLiteralOf "" s.object) :
    feature.properties.displayName = some "" ∧
      s = ⟨subject, language.vocabulary.resource Address.fullText, plainLiteral ""⟩ := by
  cases told with
  | fullText named =>
      obtain rfl := IsLiteralOf.plain.eq_empty empty
      exact ⟨named, rfl⟩
  | part listed found =>
      obtain ⟨part, _, found⟩ := Option.bind_eq_some_iff.mp found
      exact absurd (IsLiteralOf.plain.eq_empty empty) (ne_empty_of_partText? found)
  | point located literal =>
      exact absurd empty (Typing.tells_literal rfl literal).not_isLiteralOf

end Says

/-! ### Rows -/

section Rows

variable {setting : Setting} {t : Template} {row : Row} {result : Scope} {s : Statement}

/-- The match of a lookup is the one that the geocoder has answered with. -/
theorem Expanding.Expands.exists_response {inherited : Identifiers} {element : Option Nat}
    (h : Expands setting t row inherited element result) {lookup : Lookup} {feature : Feature}
    (member : lookup ∈ result.lookups) (matched : lookup.outcome = .matched feature) :
    ∃ geocoder asked response, setting.geocoder = some geocoder ∧
      geocoder asked lookup.query = .ok response ∧ response.match? = some feature := by
  obtain ⟨_, _, looked⟩ := h.lookups
  obtain ⟨_, _, _, _, before, after, answered⟩ := yields_lookUpAll looked member
  rw [matched, lookUp] at answered
  split at answered
  next => cases (yields_pure.mp answered).1
  next geocoder configured =>
    obtain ⟨answer, _, asked, answered⟩ := yields_bind.mp answered
    obtain ⟨rfl, _⟩ := yields_ask.mp asked
    split at answered
    next => cases (yields_pure.mp answered).1
    next response told =>
      split at answered
      next found chosen =>
        cases (yields_pure.mp answered).1
        exact ⟨geocoder, before.asked, response, configured, told, chosen⟩
      next => cases (yields_pure.mp answered).1

/-- The empty literals of a row are the empty full addresses that are added. -/
theorem Scope.empty_literal_iff (expanded : Expands setting t row [] none result)
    (language : Language) :
    (s ∈ result.statements language ∧ IsLiteralOf "" s.object) ↔
      ∃ chain inner lookup feature,
        result.AddsEmptyAddressAt language chain s inner lookup feature := by
  constructor
  · rintro ⟨written, empty⟩
    obtain ⟨chain, inner, reached, states | added⟩ := result.exists_source written
    · obtain ⟨_, _, _, matched⟩ := (Site.Matches.root expanded).exists_site reached
      exact absurd empty (states.not_isLiteralOf matched.expands)
    · obtain ⟨lookup, member, offered⟩ := List.mem_flatMap.mp (free_of_mem_additions added).1
      obtain ⟨feature, matched, told⟩ := exists_match_of_offered offered
      obtain ⟨named, statement⟩ := told.displayName_eq empty
      obtain ⟨free, first⟩ := mem_additions_iff.mp added
      exact ⟨chain, inner, lookup, feature, reached, member, matched, named, statement, free, first⟩
  · rintro ⟨chain, inner, lookup, feature, adds⟩
    have added : s ∈ inner.lookupStatements language :=
      mem_additions_iff.mpr ⟨adds.free, adds.first⟩
    refine ⟨mem_statements_iff.mpr ⟨chain, .inr ⟨inner, adds.reached, added⟩⟩, ?_⟩
    rw [adds.statement]
    exact .plain

/-- When a statement of a row has an empty literal: exactly when it gives the full address of a
match, this address is empty, and it is added, because no rule of the scope says anything in its
slot and no lookup before it offers anything there. So no row has an empty literal if there is no
geocoder, or if the geocoder never finds a place with an empty full address. -/
theorem empty_literals_iff (setting : Setting) (t : Template) (header : Header) (cells : List Datum)
    (progress : Progress) (expansion : Expansion)
    (done : (expandRow setting t header cells progress).1 = .ok expansion) :
    ∃ result progress',
      (Expanding.row setting t header cells).run progress = (.ok result, progress') ∧
      expansion = result.expansion setting.language ∧
      (∀ s, s ∈ expansion.statements ∧ IsLiteralOf "" s.object ↔
        ∃ chain inner lookup feature,
          result.AddsEmptyAddressAt setting.language chain s inner lookup feature) ∧
      ((∀ geocoder, setting.geocoder = some geocoder → ∀ asked query response feature,
          geocoder asked query = .ok response → response.match? = some feature →
          feature.properties.displayName ≠ some "") →
        ∀ s ∈ expansion.statements, ¬IsLiteralOf "" s.object) := by
  obtain ⟨result, progress', yields, rfl⟩ := exists_scope_of_expandRow done
  have expanded : Expands setting t { header, cells } [] none result :=
    ⟨progress, progress', yields⟩
  have known (s : Statement) := Scope.empty_literal_iff (s := s) expanded setting.language
  refine ⟨result, progress', yields, rfl, known, ?_⟩
  intro addressed s written empty
  obtain ⟨chain, inner, lookup, feature, adds⟩ := (known s).mp ⟨written, empty⟩
  obtain ⟨_, _, _, matched⟩ := (Site.Matches.root expanded).exists_site adds.reached
  obtain ⟨geocoder, asked, response, configured, answered, chosen⟩ :=
    matched.expands.exists_response adds.member adds.matched
  exact addressed geocoder configured asked _ response feature answered chosen adds.empty

end Rows

/-! ### A place without an address -/

/-- A place with a city, which is looked up. -/
def cityTemplate : Template :=
  ⟨[⟨"AddressLocation", "place", [⟨.type, []⟩, ⟨.column "city", ["locationCity"]⟩]⟩], [], [],
    { lookup := true }⟩

def cityDocument : Document :=
  .map [("TEMPLATE", .sequence [.sequence [.text "AddressLocation", .map [
      ("GENSYM", .text "place"), ("city", .sequence [.text "locationCity"])]]]),
    ("OPTIONS", .map [("GEOLOOKUP", .bool true)])]

/-- A geocoder that finds a place with the given full address, whatever the query. -/
def citySetting (address : String) : Setting :=
  let found : Feature := { properties := { placeRank := 30, displayName := some address } }
  recordSetting.asking (some fun _ _ => .ok ⟨[found]⟩)

theorem empty_literals_iff_city :
    ∃ expansion, (expandRow (citySetting "Springfield, Oregon") cityTemplate ⟨["city"]⟩
      [.text "Springfield"] {}).1 = .ok expansion ∧
      ∀ s ∈ expansion.statements, ¬IsLiteralOf "" s.object := by
  have done : ∃ expansion, (expandRow (citySetting "Springfield, Oregon") cityTemplate ⟨["city"]⟩
      [.text "Springfield"] {}).1 = .ok expansion := ⟨_, rfl⟩
  obtain ⟨expansion, done⟩ := done
  obtain ⟨_, _, _, _, _, none⟩ := empty_literals_iff (citySetting "Springfield, Oregon")
    cityTemplate _ _ {} expansion done
  refine ⟨expansion, done, none ?_⟩
  intro geocoder configured asked query response feature answered chosen
  cases configured
  cases answered
  cases (Option.filter_eq_some_iff.mp chosen).1
  decide

/-- An empty full address is stated. -/
theorem empty_literal_city :
    cityTemplate.IsLoaded ∧
    ∃ expansion, (expandRow (citySetting "") cityTemplate ⟨["city"]⟩
      [.text "Springfield"] {}).1 = .ok expansion ∧
      ∃ s ∈ expansion.statements, IsLiteralOf "" s.object := by
  refine ⟨⟨true, cityDocument, rfl⟩, _, rfl, ?_⟩
  refine ⟨⟨recordSetting.language.vocabulary.resource "0",
    recordSetting.language.vocabulary.resource Address.fullText, plainLiteral ""⟩, ?_, .plain⟩
  decide +kernel

end RowTriples
