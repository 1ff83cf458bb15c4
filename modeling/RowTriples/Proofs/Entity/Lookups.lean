import RowTriples.Proofs.Entity.Accounting
import RowTriples.Proofs.Entity.Precedence
/-!
# The lookups of a row and what comes of them

Which queries a row sends can be told from the template and the columns: in every scope one for each
entry of a class that is looked up there and whose columns have an address, and the scopes in their
order, each one before those of its repetitions. Each lookup is settled by the answer to its query
alone: by the statements that its match offers, or by one diagnostic.
-/

namespace RowTriples

open Expanding

/-! ### What is looked up -/

/-- The queries of a site: one for each entry of a class that is looked up and with an address. -/
def Site.queries (vocabulary : Vocabulary) (site : Site) : List AddressQuery :=
  site.template.entries.filterMap
    (addressQuery? vocabulary site.template.options site.derived)

/-- The lookups are made for the entities of the entries in their order, one for each entry that has
a query and none for the others. -/
inductive LooksUp (ids : Identifiers) (query? : Entry → Option AddressQuery) :
    List Entry → List Entity → List Lookup → Prop where
  | nil : LooksUp ids query? [] [] []
  | made {entry : Entry} {entity : Entity} {lookup : Lookup} {entries : List Entry}
      {entities : List Entity} {lookups : List Lookup}
      (type : entity.type = entry.type) (id : Entries.get? entry.symbol ids = some entity.id)
      (query : query? entry = some lookup.query) (subject : lookup.id = entity.id)
      (rest : LooksUp ids query? entries entities lookups) :
      LooksUp ids query? (entry :: entries) (entity :: entities) (lookup :: lookups)
  | passed {entry : Entry} {entity : Entity} {entries : List Entry} {entities : List Entity}
      {lookups : List Lookup}
      (type : entity.type = entry.type) (id : Entries.get? entry.symbol ids = some entity.id)
      (none : query? entry = none) (rest : LooksUp ids query? entries entities lookups) :
      LooksUp ids query? (entry :: entries) (entity :: entities) lookups

section Scopes

variable {setting : Setting} {options : Options} {row : Row} {ids : Identifiers}
variable {progress progress' : Progress} {site : Site} {inherited : Identifiers} {result : Scope}

theorem LooksUp.queries {query? : Entry → Option AddressQuery} {entries : List Entry}
    {entities : List Entity} {lookups : List Lookup}
    (h : LooksUp ids query? entries entities lookups) :
    lookups.map Lookup.query = entries.filterMap query? := by
  induction h with
  | nil => rfl
  | made _ _ query _ _ ih => rw [List.map_cons, ih, List.filterMap_cons_some query]
  | passed _ _ none _ ih => rw [ih, List.filterMap_cons_none none]

theorem looksUp_of_yields {parts : Parts} {entries : List Entry} {entities : List Entity}
    {lookups : List Lookup}
    (known : List.Forall₂ (Instantiates setting options row ids parts) entries entities)
    (yields : Yields (lookUpAll setting options row ids entries) progress lookups progress') :
    LooksUp ids (addressQuery? setting.language.vocabulary options row) entries entities
      lookups := by
  induction known generalizing progress progress' lookups with
  | nil =>
      obtain ⟨rfl, _⟩ := yields_pure.mp yields
      exact .nil
  | @cons entry entity _ _ instantiates _ ih =>
      rw [lookUpAll, instantiates.id] at yields
      cases asks : addressQuery? setting.language.vocabulary options row entry with
      | none =>
          rw [asks] at yields
          exact .passed instantiates.type instantiates.id asks (ih yields)
      | some query =>
          rw [asks] at yields
          obtain ⟨outcome, _, _, yields⟩ := yields_bind.mp yields
          obtain ⟨others, _, rest, yields⟩ := yields_bind.mp yields
          obtain ⟨rfl, _⟩ := yields_pure.mp yields
          exact .made instantiates.type instantiates.id asks rfl (ih rest)

/-- A scope looks up what its site asks for. -/
theorem Site.Matches.looksUp (h : site.Matches setting inherited result) :
    LooksUp result.identifiers
      (addressQuery? setting.language.vocabulary site.template.options site.derived)
      site.template.entries result.entities result.lookups := by
  obtain ⟨_, _, looked⟩ := h.expands.lookups
  exact looksUp_of_yields h.expands.run.2 looked

end Scopes

/-! ### All lookups of a row -/

section Listing

variable (language : Language)

/-- What every scope has of its own, and then in its repetitions, it has in its scopes one by
one. -/
theorem eq_flatMap_scopes {α : Type} {whole own : Scope → List α}
    (split : ∀ scope, whole scope =
      own scope ++ scope.occurrences.flatMap fun occurrence => whole occurrence.2)
    (result : Scope) : whole result = result.scopes.flatMap own := by
  rw [Scope.scopes_eq, List.flatMap_cons, List.flatMap_assoc, split]
  refine congrArg _ (List.flatMap_congr fun occurrence member => ?_)
  exact eq_flatMap_scopes split occurrence.2
termination_by sizeOf result
decreasing_by exact Scope.sizeOf_lt_of_mem_occurrences member

theorem lookupsOfEntities_eq (entities : List Entity) :
    lookupsOfEntities entities = entities.flatMap Entity.allLookups := by
  induction entities with
  | nil => rfl
  | cons entity entities ih => rw [lookupsOfEntities, ih, List.flatMap_cons]

theorem lookupsOfFacts_eq (facts : List Fact) :
    lookupsOfFacts facts = facts.flatMap Fact.allLookups := by
  induction facts with
  | nil => rfl
  | cons fact facts ih => rw [lookupsOfFacts, ih, List.flatMap_cons]

theorem lookupsOfOccurrences_eq (occurrences : List (String × Scope)) :
    lookupsOfOccurrences occurrences =
      occurrences.flatMap fun occurrence => occurrence.2.allLookups := by
  induction occurrences with
  | nil => rfl
  | cons occurrence occurrences ih =>
      obtain ⟨id, scope⟩ := occurrence
      rw [lookupsOfOccurrences, ih, List.flatMap_cons]

theorem Fact.allLookups_eq (fact : Fact) :
    fact.allLookups = fact.occurrences.flatMap fun occurrence => occurrence.2.allLookups := by
  cases fact with
  | repeated predicates occurrences => exact lookupsOfOccurrences_eq occurrences
  | _ => rfl

theorem Entity.allLookups_eq (entity : Entity) :
    entity.allLookups = entity.facts.flatMap Fact.allLookups := by
  obtain ⟨id, type, facts⟩ := entity
  exact lookupsOfFacts_eq facts

/-- The lookups of a row are those of its scopes, in their order. -/
theorem Scope.allLookups_eq (result : Scope) :
    result.allLookups = result.scopes.flatMap Scope.lookups := by
  refine eq_flatMap_scopes (fun scope => ?_) result
  obtain ⟨ids, lookups, entities⟩ := scope
  rw [Scope.allLookups, lookupsOfEntities_eq, Scope.occurrences, Scope.facts]
  simp only [funext Entity.allLookups_eq, funext Fact.allLookups_eq, List.flatMap_assoc]
  rfl

/-- The diagnostics of a scope other than those about skipped values are those of its lookups and
those of its repetitions. -/
theorem Scope.filter_diagnostics (scope : Scope) :
    (scope.diagnostics language).filter (!·.isSkippedValue) =
      scope.lookups.filterMap (Lookup.diagnostic? language) ++ scope.occurrences.flatMap
        fun occurrence => (occurrence.2.diagnostics language).filter (!·.isSkippedValue) := by
  have own : (scope.lookups.filterMap (Lookup.diagnostic? language)).filter (!·.isSkippedValue) =
      scope.lookups.filterMap (Lookup.diagnostic? language) := by
    have none := @filter_isSkippedValue_of_lookups language scope.lookups
    rw [List.filter_eq_nil_iff] at none
    exact List.filter_eq_self.mpr fun diagnostic member => by simpa using none diagnostic member
  have skips (subject : String) (fact : Fact) :
      (fact.skips language subject).filter (!·.isSkippedValue) = [] := by
    rw [← Fact.filterMap_skip?, List.filter_eq_nil_iff]
    intro diagnostic member
    obtain ⟨v, _, skipped⟩ := List.mem_filterMap.mp member
    simp [isSkippedValue_of_skip? skipped]
  rw [Scope.diagnostics_eq, List.filter_append, own, Scope.diagnosticsOfRules_eq,
    Scope.occurrences_eq language]
  simp only [Fact.diagnostics_eq, List.filter_flatMap, List.filter_append, skips, List.nil_append,
    List.flatMap_assoc]

/-- Lookups are reported in their order. -/
theorem Scope.lookupDiagnostics_eq (result : Scope) :
    (result.diagnostics language).filter (!·.isSkippedValue) =
      (result.scopes.flatMap Scope.lookups).filterMap (Lookup.diagnostic? language) := by
  rw [List.filterMap_flatMap]
  exact eq_flatMap_scopes (Scope.filter_diagnostics language) result

end Listing

/-! ### What comes of a lookup -/

/-- The answer to the query of a lookup settles it: the statements of a confident match are staged
for the entity, and otherwise one diagnostic is reported for it. -/
inductive Lookup.SettledBy (language : Language) (lookup : Lookup) :
    Except GeocodeError GeocodeResponse → Prop where
  | staged {response : GeocodeResponse} {feature : Feature}
      (confident : response.match? = some feature)
      (offered : lookup.candidates language = feature.statements language.schema
        language.vocabulary (language.vocabulary.resource lookup.id))
      (silent : lookup.diagnostic? language = none) : SettledBy language lookup (.ok response)
  | noMatch {response : GeocodeResponse} (doubtful : response.match? = none)
      (nothing : lookup.candidates language = [])
      (reported : lookup.diagnostic? language =
        some (.geocodeNoMatch (language.vocabulary.resource lookup.id))) :
      SettledBy language lookup (.ok response)
  | failed {error : GeocodeError} (nothing : lookup.candidates language = [])
      (reported : lookup.diagnostic? language =
        some (.geocodeFailed (language.vocabulary.resource lookup.id) error)) :
      SettledBy language lookup (.error error)

theorem Lookup.settledBy_of_outcome {language : Language} {lookup : Lookup}
    {answer : Except GeocodeError GeocodeResponse} (answered : lookup.outcome = .of answer) :
    lookup.SettledBy language answer := by
  cases answer with
  | error error =>
      rw [LookupOutcome.of] at answered
      exact .failed (by rw [candidates, answered]) (by rw [diagnostic?, answered]; rfl)
  | ok response =>
      rw [LookupOutcome.of] at answered
      cases found : response.match? with
      | none =>
          rw [found] at answered
          exact .noMatch found (by rw [candidates, answered]) (by rw [diagnostic?, answered]; rfl)
      | some feature =>
          rw [found] at answered
          exact .staged found (by rw [candidates, answered]; rfl) (by rw [diagnostic?, answered])

/-- Without a geocoder a lookup has nothing to offer and reports this. -/
theorem Lookup.diagnostic?_of_unavailable {language : Language} {lookup : Lookup}
    (unanswered : lookup.outcome = .unavailable) :
    lookup.diagnostic? language =
      some (.geocoderUnavailable (language.vocabulary.resource lookup.id)) := by
  rw [diagnostic?, unanswered]
  rfl

namespace Transcript

variable {geocoder : Geocoder} {asked asked' : List AddressQuery} {lookups : List Lookup}

/-- The queries of the lookups are sent in their order. -/
theorem asked_eq (h : Transcript geocoder asked lookups asked') :
    asked' = asked ++ lookups.map Lookup.query := by
  induction h with
  | nil => rw [List.map_nil, List.append_nil]
  | cons _ _ ih => rw [ih, List.map_cons, List.append_assoc, List.singleton_append]

/-- A lookup is answered after the queries of those before it. -/
theorem outcome_eq {before after : List Lookup} {lookup : Lookup}
    (h : Transcript geocoder asked (before ++ lookup :: after) asked') :
    lookup.outcome = .of (geocoder (asked ++ before.map Lookup.query) lookup.query) := by
  induction before generalizing asked with
  | nil =>
      cases h with
      | cons answered _ => rwa [List.map_nil, List.append_nil]
  | cons first before ih =>
      cases h with
      | cons _ rest =>
          rw [ih rest, List.map_cons, List.append_assoc, List.singleton_append]

end Transcript

/-! ### Rows -/

section Rows

variable {setting : Setting} {t : Template} {row : Row} {progress progress' : Progress}
variable {result : Scope}

theorem Setting.asking_geocoder (setting : Setting) : setting.asking setting.geocoder = setting :=
  rfl

/-- A row sends the queries of its lookups, and each lookup has the outcome of its answer. -/
theorem transcript_of_yields {geocoder : Geocoder} (given : setting.geocoder = some geocoder)
    (yields : Yields (template setting t row [] none) progress result progress') :
    Transcript geocoder progress.asked (result.scopes.flatMap Scope.lookups) progress'.asked := by
  rw [← Setting.asking_geocoder setting, given] at yields
  obtain ⟨last, _, _, ⟨error, fails, _⟩ | ⟨_, _, _, yields', _, transcript, enriches⟩⟩ :=
    expandsInLockstep setting geocoder setting.language t row [] none progress progress rfl
  · have both := yields.symm.trans fails
    cases both
  · have both := yields.symm.trans yields'
    cases both
    rw [← Scope.allLookups_eq, enriches.asked]
    exact transcript

theorem unavailable_of_expands (absent : setting.geocoder = none)
    (expanded : Expands setting t row [] none result) :
    ∀ lookup ∈ result.scopes.flatMap Scope.lookups, lookup.outcome = .unavailable := by
  intro lookup member
  obtain ⟨scope, listed, member⟩ := List.mem_flatMap.mp member
  obtain ⟨site, _, _, matched⟩ := exists_of_mem_right (Site.Matches.root expanded).sites listed
  obtain ⟨_, _, looked⟩ := matched.expands.lookups
  exact unavailable_of_lookUpAll absent looked lookup member

end Rows

/-- Lookups and their outcomes correspond one by one. In every scope of a row that expands there is
one lookup, in order, for each entity whose class the scope looks up and whose columns have an
address, and what the lookups of a scope offer is staged behind what its rules state. The
diagnostics other than those about skipped values are those of the lookups, in order. With a
geocoder the queries are sent in the order of the lookups, and each lookup is settled by the answer
to its own: it offers the statements of a confident match, or one diagnostic says that there is none
or that it failed. Without a geocoder each lookup offers nothing and reports just this. -/
theorem lookups_correspond (setting : Setting) (t : Template) (header : Header) (cells : List Datum)
    (progress : Progress) (expansion : Expansion)
    (done : (expandRow setting t header cells progress).1 = .ok expansion) :
    let language := setting.language
    let sites := (Site.root t { header, cells }).sites
    let reported := expansion.diagnostics.filter (!·.isSkippedValue)
    ∃ result progress',
      (Expanding.row setting t header cells).run progress = (.ok result, progress') ∧
      expansion = result.expansion language ∧
      List.Forall₂ (fun site scope =>
        LooksUp scope.identifiers
          (addressQuery? language.vocabulary site.template.options site.derived)
          site.template.entries scope.entities scope.lookups ∧
        scope.statements language = fillSlots (scope.ruleStatements language)
          (scope.lookups.flatMap (Lookup.candidates language))) sites result.scopes ∧
      let lookups := result.scopes.flatMap Scope.lookups
      lookups.map Lookup.query = sites.flatMap (Site.queries language.vocabulary) ∧
      reported = lookups.filterMap (Lookup.diagnostic? language) ∧
      (∀ geocoder, setting.geocoder = some geocoder →
        progress'.asked = progress.asked ++ lookups.map Lookup.query ∧
        ∀ before lookup after, lookups = before ++ lookup :: after →
          lookup.SettledBy language
            (geocoder (progress.asked ++ before.map Lookup.query) lookup.query)) ∧
      (setting.geocoder = none →
        (∀ lookup ∈ lookups, lookup.candidates language = []) ∧
        reported = lookups.map fun lookup =>
          .geocoderUnavailable (language.vocabulary.resource lookup.id)) := by
  intro language sites reported
  obtain ⟨result, progress', yields, rfl⟩ := exists_scope_of_expandRow done
  have expanded : Expands setting t { header, cells } [] none result :=
    ⟨progress, progress', yields⟩
  have matched := (Site.Matches.root expanded).sites
  have told : reported =
      (result.scopes.flatMap Scope.lookups).filterMap (Lookup.diagnostic? language) :=
    result.lookupDiagnostics_eq language
  refine ⟨result, progress', yields, rfl, ?_, ?_, told, ?_, ?_⟩
  · refine matched.imp fun site scope => ?_
    rintro ⟨_, matched⟩
    refine ⟨matched.looksUp, ?_⟩
    rw [Scope.statements_eq, fillSlots_eq]
    rfl
  · rw [List.map_flatMap]
    refine flatMap_eq_of_forall₂ matched fun site scope => ?_
    rintro ⟨_, matched⟩
    exact matched.looksUp.queries
  · intro geocoder given
    have transcript := transcript_of_yields given yields
    refine ⟨transcript.asked_eq, fun before lookup after parts => ?_⟩
    rw [parts] at transcript
    exact Lookup.settledBy_of_outcome transcript.outcome_eq
  · intro absent
    have unanswered := unavailable_of_expands absent expanded
    refine ⟨fun lookup member => by rw [Lookup.candidates, unanswered lookup member], ?_⟩
    rw [told, ← List.filterMap_eq_map]
    exact List.filterMap_congr fun lookup member =>
      Lookup.diagnostic?_of_unavailable (unanswered lookup member)

/-! ### Lookups without a match -/

/-- A geocoder that finds nothing at first and then fails. -/
def doubtfulSetting : Setting :=
  recordSetting.asking (some fun asked _ =>
    if asked.isEmpty then .ok ⟨[]⟩ else .error (.request "timed out"))

/-- The place is looked up for each note, since only the options of the notes ask for it. -/
theorem lookups_correspond_place :
    let t := placeTemplate {} { lookup := true }
    let header : Header := ⟨["city", "lines"]⟩
    let cells : List Datum :=
      [.text "Springfield", .list [.text "1 Main Street", .text "2 Main Street"]]
    let language := doubtfulSetting.language
    t.IsLoaded ∧ ∃ expansion,
      (expandRow doubtfulSetting t header cells {}).1 = .ok expansion ∧
      ∃ first second : Lookup,
        first.query = .freeText "1 Main Street" ∧ first.SettledBy language (.ok ⟨[]⟩) ∧
        second.query = .freeText "2 Main Street" ∧
        second.SettledBy language (.error (.request "timed out")) ∧
        expansion.diagnostics.filter (!·.isSkippedValue) =
          [first, second].filterMap (Lookup.diagnostic? language) := by
  intro t header cells language
  have done : ∃ expansion, (expandRow doubtfulSetting t header cells {}).1 = .ok expansion :=
    ⟨_, rfl⟩
  obtain ⟨expansion, done⟩ := done
  obtain ⟨result, _, ran, _, _, _, reported, answered, _⟩ :=
    lookups_correspond doubtfulSetting t header cells {} expansion done
  obtain ⟨asked, settled⟩ := answered _ rfl
  generalize result.scopes.flatMap Scope.lookups = lookups at reported asked settled
  cases ran
  have queries : lookups.map Lookup.query =
      [.freeText "1 Main Street", .freeText "2 Main Street"] := asked.symm
  obtain ⟨first, _, rfl, asksFirst, queries⟩ := List.map_eq_cons_iff.mp queries
  obtain ⟨second, _, rfl, asksSecond, queries⟩ := List.map_eq_cons_iff.mp queries
  cases List.map_eq_nil_iff.mp queries
  exact ⟨⟨true, placeDocument, rfl⟩, expansion, done, first, second, asksFirst,
    settled [] first [second] rfl, asksSecond, settled [first] second [] rfl, reported⟩

end RowTriples
