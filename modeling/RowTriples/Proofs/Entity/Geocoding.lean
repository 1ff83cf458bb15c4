import RowTriples.Proofs.Entity.Links
import RowTriples.Proofs.Entity.Lockstep
/-!
# What a geocoder adds to a row

A geocoder can only add to a row. With it and without it a row fails with the same error, or the
statements without it are all there with it, in their order, and what stands between them comes from
confident matches. A candidate of a match that is not added finds its slot taken. Which values are
skipped does not depend on the geocoder at all.
-/

namespace RowTriples

open Expanding

/-! ### Additions -/

/-- The second list is the first one with further elements between its own, all of which have a
property. -/
inductive Extends {α : Type} (added : α → Prop) : List α → List α → Prop where
  | nil : Extends added [] []
  | keep {x : α} {xs ys : List α} (rest : Extends added xs ys) : Extends added (x :: xs) (x :: ys)
  | add {y : α} {xs ys : List α} (new : added y) (rest : Extends added xs ys) :
      Extends added xs (y :: ys)

namespace Extends

variable {α : Type} {added added' : α → Prop} {xs xs' ys ys' : List α}

theorem refl (xs : List α) : Extends added xs xs := by
  induction xs with
  | nil => exact .nil
  | cons x xs ih => exact .keep ih

theorem append (h : Extends added xs ys) (h' : Extends added xs' ys') :
    Extends added (xs ++ xs') (ys ++ ys') := by
  induction h with
  | nil => exact h'
  | keep _ ih => exact .keep ih
  | add new _ ih => exact .add new ih

theorem mono (h : Extends added xs ys) (imp : ∀ y, added y → added' y) : Extends added' xs ys := by
  induction h with
  | nil => exact .nil
  | keep _ ih => exact .keep ih
  | add new _ ih => exact .add (imp _ new) ih

theorem sublist (h : Extends added xs ys) : xs.Sublist ys := by
  induction h with
  | nil => exact .slnil
  | keep _ ih => exact ih.cons_cons _
  | add _ _ ih => exact ih.cons _

/-- Candidates are only ever added. -/
theorem fillSlots {statements plain candidates : List Statement} {added : Statement → Prop}
    (h : Extends added plain statements) (offered : ∀ candidate ∈ candidates, added candidate) :
    Extends added plain (fillSlots statements candidates) := by
  induction candidates generalizing statements with
  | nil => exact h
  | cons candidate candidates ih =>
      obtain ⟨here, others⟩ := List.forall_mem_cons.mp offered
      unfold RowTriples.fillSlots
      split
      · exact ih h others
      · have appended : Extends added (plain ++ []) (statements ++ [candidate]) :=
          h.append (.add here .nil)
        rw [List.append_nil] at appended
        exact ih appended others

end Extends

/-- Every candidate finds its slot taken, if not by itself. -/
theorem exists_sameSlot_fillSlots {statements candidates : List Statement} {candidate : Statement}
    (member : candidate ∈ candidates) :
    ∃ s ∈ fillSlots statements candidates, s.sameSlot candidate = true := by
  induction candidates generalizing statements with
  | nil => cases member
  | cons first candidates ih =>
      unfold fillSlots
      split
      next occupied =>
        rcases List.mem_cons.mp member with rfl | member
        · obtain ⟨s, stated, same⟩ := List.any_eq_true.mp occupied
          exact ⟨s, mem_fillSlots stated, same⟩
        · exact ih member
      next =>
        rcases List.mem_cons.mp member with rfl | member
        · exact ⟨candidate, mem_fillSlots (List.mem_append_right _ (List.mem_singleton_self _)),
            Statement.sameSlot_self _⟩
        · exact ih member

/-! ### The lookups of a row -/

mutual

/-- The lookups of a scope, in the order in which they are made: first its own, then those of its
repetitions. -/
def Scope.allLookups : Scope → List Lookup
  | .mk _ lookups entities => lookups ++ lookupsOfEntities entities

def lookupsOfEntities : List Entity → List Lookup
  | [] => []
  | entity :: entities => Entity.allLookups entity ++ lookupsOfEntities entities

def Entity.allLookups : Entity → List Lookup
  | .mk _ _ facts => lookupsOfFacts facts

def lookupsOfFacts : List Fact → List Lookup
  | [] => []
  | fact :: facts => Fact.allLookups fact ++ lookupsOfFacts facts

def Fact.allLookups : Fact → List Lookup
  | .type | .link _ _ | .values _ _ => []
  | .repeated _ occurrences => lookupsOfOccurrences occurrences

def lookupsOfOccurrences : List (String × Scope) → List Lookup
  | [] => []
  | (_, scope) :: occurrences => Scope.allLookups scope ++ lookupsOfOccurrences occurrences

end

/-- The lookup has a match, and the match offers the statement. -/
def Lookup.Offers (language : Language) (lookup : Lookup) (s : Statement) : Prop :=
  ∃ feature, lookup.outcome = .matched feature ∧
    s ∈ feature.statements language.schema language.vocabulary (lookup.subject language)

theorem Lookup.mem_candidates_iff {language : Language} {lookup : Lookup} {s : Statement} :
    s ∈ lookup.candidates language ↔ lookup.Offers language s := by
  unfold candidates Offers
  split
  next feature matched => simp [matched]
  next unmatched =>
    constructor
    · exact nofun
    · rintro ⟨feature, matched, _⟩
      exact absurd matched (unmatched feature)

/-! ### Enriched output -/

def Diagnostic.isSkippedValue : Diagnostic → Bool
  | .skippedValue _ _ => true
  | _ => false

/-- Statements and diagnostics with lookups are those without, enriched by the lookups: statements
are added only where a lookup offers them, every slot that is offered is taken, and the diagnostics
about skipped values are the same. -/
structure Enriches (language : Language) (lookups : List Lookup) (statements plain : List Statement)
    (diagnostics plainDiagnostics : List Diagnostic) : Prop where
  extended : Extends (fun s => ∃ lookup ∈ lookups, s ∈ lookup.candidates language) plain statements
  occupied : ∀ lookup ∈ lookups, ∀ candidate ∈ lookup.candidates language,
    ∃ s ∈ statements, s.sameSlot candidate = true
  skipped : diagnostics.filter Diagnostic.isSkippedValue =
    plainDiagnostics.filter Diagnostic.isSkippedValue

namespace Enriches

variable {language : Language} {lookups lookups' : List Lookup}
variable {statements statements' plain plain' : List Statement}
variable {diagnostics diagnostics' plainDiagnostics plainDiagnostics' : List Diagnostic}

/-- Without lookups nothing changes. -/
theorem refl : Enriches language [] statements statements diagnostics diagnostics :=
  ⟨.refl _, nofun, rfl⟩

theorem append (h : Enriches language lookups statements plain diagnostics plainDiagnostics)
    (h' : Enriches language lookups' statements' plain' diagnostics' plainDiagnostics') :
    Enriches language (lookups ++ lookups') (statements ++ statements') (plain ++ plain')
      (diagnostics ++ diagnostics') (plainDiagnostics ++ plainDiagnostics') := by
  refine ⟨.append (h.extended.mono ?_) (h'.extended.mono ?_), ?_, ?_⟩
  · rintro s ⟨lookup, member, offered⟩
    exact ⟨lookup, List.mem_append_left _ member, offered⟩
  · rintro s ⟨lookup, member, offered⟩
    exact ⟨lookup, List.mem_append_right _ member, offered⟩
  · intro lookup member candidate offered
    rcases List.mem_append.mp member with member | member
    · obtain ⟨s, stated, same⟩ := h.occupied lookup member candidate offered
      exact ⟨s, List.mem_append_left _ stated, same⟩
    · obtain ⟨s, stated, same⟩ := h'.occupied lookup member candidate offered
      exact ⟨s, List.mem_append_right _ stated, same⟩
  · rw [List.filter_append, List.filter_append, h.skipped, h'.skipped]

end Enriches

/-- A scope with lookups is the scope without them, enriched: the identifiers are the same. -/
structure Scope.Enriches (language : Language) (result : Scope) (lookups : List Lookup)
    (plain : Scope) : Prop where
  identifiers : result.identifiers = plain.identifiers
  asked : result.allLookups = lookups
  output : RowTriples.Enriches language lookups (result.statements language)
    (plain.statements language) (result.diagnostics language) (plain.diagnostics language)

def Fact.Enriches (language : Language) (fact : Fact) (lookups : List Lookup) (plain : Fact) :
    Prop :=
  fact.allLookups = lookups ∧ ∀ subject type, RowTriples.Enriches language lookups
    (fact.statements language subject type) (plain.statements language subject type)
    (fact.diagnostics language subject) (plain.diagnostics language subject)

/-! ### Lockstep -/

/-- With the geocoder and without it the template expands in lockstep, to scopes one of which
enriches the other. -/
def ExpandsInLockstep (setting : Setting) (geocoder : Geocoder) (language : Language)
    (t : Template) : Prop :=
  ∀ row ids element, Lockstep geocoder
    (template (setting.asking (some geocoder)) t row ids element)
    (template (setting.asking none) t row ids element) (Scope.Enriches language)

section Lockstep

variable {geocoder : Geocoder} {setting : Setting} {options : Options} {row : Row}
variable {ids : Identifiers} {language : Language}

theorem lockstep_repeatFor {meaning meaning' : Meaning} {subtemplate symbol variableName : String}
    (enters : ∀ inner seed element, Lockstep geocoder (meaning inner seed element)
      (meaning' inner seed element) (Scope.Enriches language))
    {values : List Datum} {i : Nat} :
    Lockstep geocoder
      (repeatFor (setting.asking (some geocoder)) options row ids subtemplate symbol variableName
        meaning i values)
      (repeatFor (setting.asking none) options row ids subtemplate symbol variableName meaning' i
        values) fun occurrences lookups plain =>
        lookupsOfOccurrences occurrences = lookups ∧ ∀ subject predicates,
          Enriches language lookups
            (statementsOfOccurrences language subject predicates occurrences)
            (statementsOfOccurrences language subject predicates plain)
            (diagnosticsOfOccurrences language occurrences)
            (diagnosticsOfOccurrences language plain) := by
  induction values generalizing i with
  | nil => exact .pure ⟨rfl, fun _ _ => .refl⟩
  | cons value values ih =>
      rw [repeatFor_cons, repeatFor_cons]
      refine lockstep_seedFor.bind_unasked fun seed => (enters _ seed _).bind ?_
      intro result lookups plain enriched
      -- Both runs link to the repetition by the same identifier, or fail for want of one.
      rw [← enriched.identifiers]
      cases Entries.get? symbol result.identifiers with
      | none => exact .throw
      | some id =>
          refine ih.bind ?_
          rintro others _ plainOthers ⟨rfl, rest⟩
          refine .pure ?_
          rw [List.append_nil]
          refine ⟨by rw [lookupsOfOccurrences, enriched.asked], fun subject predicates => ?_⟩
          have linked : Enriches language []
              (language.relate subject predicates (language.vocabulary.resource id))
              (language.relate subject predicates (language.vocabulary.resource id)) [] [] := .refl
          exact (linked.append enriched.output).append (rest subject predicates)

theorem lockstep_fact {subtemplates : List (String × Iteration × Template)} {entry : Entry}
    {rule : Rule}
    (inside : ∀ part ∈ subtemplates, ExpandsInLockstep setting geocoder language part.2.2) :
    Lockstep geocoder
      (fact (setting.asking (some geocoder)) options row ids
        (subtemplatesOf (setting.asking (some geocoder)) subtemplates) entry rule)
      (fact (setting.asking none) options row ids
        (subtemplatesOf (setting.asking none) subtemplates) entry rule)
      (Fact.Enriches language) := by
  obtain ⟨target, predicates⟩ := rule
  cases target with
  | type => exact .pure ⟨rfl, fun _ _ => .refl⟩
  | column name => exact .pure ⟨rfl, fun _ _ => .refl⟩
  | symbol name => exact lockstep_require.bind_unasked fun _ => .pure ⟨rfl, fun _ _ => .refl⟩
  | repeated name symbol =>
      simp only [fact, lookup_subtemplatesOf]
      cases found : subtemplates.lookup name with
      | none => exact .throw
      | some part =>
          refine (lockstep_repeatFor (inside _ (mem_of_lookup found))).bind ?_
          rintro occurrences _ plain ⟨rfl, enriched⟩
          refine .pure ?_
          rw [List.append_nil]
          exact ⟨rfl, fun subject _ => enriched subject predicates⟩

theorem lockstep_facts {subtemplates : List (String × Iteration × Template)} {entry : Entry}
    {rules : List Rule}
    (inside : ∀ part ∈ subtemplates, ExpandsInLockstep setting geocoder language part.2.2) :
    Lockstep geocoder
      (facts (setting.asking (some geocoder)) options row ids
        (subtemplatesOf (setting.asking (some geocoder)) subtemplates) entry rules)
      (facts (setting.asking none) options row ids
        (subtemplatesOf (setting.asking none) subtemplates) entry rules) fun facts lookups plain =>
        lookupsOfFacts facts = lookups ∧ ∀ subject type, Enriches language lookups
          (statementsOfFacts language subject type facts)
          (statementsOfFacts language subject type plain)
          (diagnosticsOfFacts language subject facts)
          (diagnosticsOfFacts language subject plain) := by
  induction rules with
  | nil => exact .pure ⟨rfl, fun _ _ => .refl⟩
  | cons rule rules ih =>
      refine (lockstep_fact inside).bind ?_
      rintro fact _ plain ⟨rfl, first⟩
      refine ih.bind ?_
      rintro facts _ plains ⟨rfl, rest⟩
      refine .pure ?_
      rw [List.append_nil]
      exact ⟨rfl, fun subject type => (first subject type).append (rest subject type)⟩

theorem lockstep_entities {subtemplates : List (String × Iteration × Template)}
    {entries : List Entry}
    (inside : ∀ part ∈ subtemplates, ExpandsInLockstep setting geocoder language part.2.2) :
    Lockstep geocoder
      (entities (setting.asking (some geocoder)) options row ids
        (subtemplatesOf (setting.asking (some geocoder)) subtemplates) entries)
      (entities (setting.asking none) options row ids
        (subtemplatesOf (setting.asking none) subtemplates) entries) fun entities lookups plain =>
        lookupsOfEntities entities = lookups ∧ Enriches language lookups
          (statementsOfEntities language entities) (statementsOfEntities language plain)
          (diagnosticsOfEntities language entities) (diagnosticsOfEntities language plain) := by
  induction entries with
  | nil => exact .pure ⟨rfl, .refl⟩
  | cons entry entries ih =>
      refine lockstep_require.bind_unasked fun id => (lockstep_facts inside).bind ?_
      rintro facts _ plain ⟨rfl, first⟩
      refine ih.bind ?_
      rintro entities _ plains ⟨rfl, rest⟩
      refine .pure ?_
      rw [List.append_nil]
      exact ⟨rfl, (first _ _).append rest⟩

/-- Diagnostics of lookups are not about skipped values. -/
theorem filter_isSkippedValue_of_lookups (lookups : List Lookup) :
    (lookups.filterMap (Lookup.diagnostic? language)).filter Diagnostic.isSkippedValue = [] := by
  rw [List.filter_eq_nil_iff]
  intro diagnostic member
  obtain ⟨lookup, _, found⟩ := List.mem_filterMap.mp member
  unfold Lookup.diagnostic? at found
  split at found <;> cases found <;> exact Bool.false_ne_true

/-- The candidates of a scope come after everything that its entities and their repetitions say. -/
theorem Scope.Enriches.of_entities {lookups silent : List Lookup} {entities plain : List Entity}
    (unanswered : ∀ lookup ∈ silent, lookup.outcome = .unavailable)
    (h : RowTriples.Enriches language (lookupsOfEntities entities)
      (statementsOfEntities language entities) (statementsOfEntities language plain)
      (diagnosticsOfEntities language entities) (diagnosticsOfEntities language plain)) :
    Scope.Enriches language (.mk ids lookups entities) (lookups ++ lookupsOfEntities entities)
      (.mk ids silent plain) := by
  -- The scope without answers has nothing to add to what its entities say.
  have nothing : silent.flatMap (Lookup.candidates language) = [] := by
    rw [List.flatMap_eq_nil_iff]
    intro lookup member
    rw [Lookup.candidates, unanswered lookup member]
  refine ⟨rfl, rfl, ?_, ?_, ?_⟩
  · rw [Scope.statements, Scope.statements, nothing, RowTriples.fillSlots]
    refine (h.extended.mono ?_).fillSlots ?_
    · rintro s ⟨lookup, member, offered⟩
      exact ⟨lookup, List.mem_append_right _ member, offered⟩
    · intro candidate member
      obtain ⟨lookup, member, offered⟩ := List.mem_flatMap.mp member
      exact ⟨lookup, List.mem_append_left _ member, offered⟩
  · intro lookup member candidate offered
    rw [Scope.statements]
    rcases List.mem_append.mp member with member | member
    · exact exists_sameSlot_fillSlots (List.mem_flatMap.mpr ⟨lookup, member, offered⟩)
    · obtain ⟨s, stated, same⟩ := h.occupied lookup member candidate offered
      exact ⟨s, mem_fillSlots stated, same⟩
  · rw [Scope.diagnostics, Scope.diagnostics, List.filter_append, List.filter_append,
      filter_isSkippedValue_of_lookups, filter_isSkippedValue_of_lookups, h.skipped]

/-- Every template expands in lockstep: by induction, for what it repeats does. -/
theorem expandsInLockstep (setting : Setting) (geocoder : Geocoder) (language : Language)
    (t : Template) : ExpandsInLockstep setting geocoder language t := by
  induction t using Template.nested with
  | step t inside =>
      intro row ids element
      obtain ⟨entries, subtemplates, bindings, options⟩ := t
      simp only [template, scope]
      refine lockstep_identify.bind_unasked fun ids => lockstep_lookUpAll.bind ?_
      rintro lookups _ silent ⟨rfl, unanswered⟩
      refine (lockstep_entities inside).bind ?_
      rintro entities _ plain ⟨rfl, enriched⟩
      refine .pure ?_
      rw [List.append_nil]
      exact .of_entities unanswered enriched

end Lockstep

/-- A geocoder only adds to a row, however it answers. With it and without it, after equally many
random identifiers, the row takes equally many of them and fails with the same error or succeeds
both times. If it succeeds, then the queries are sent in the order of the lookups, each of which has
the outcome of its answer. The statements without the geocoder are those with it except for some
that matches offer; every slot that a match offers is taken; and the same values are skipped. -/
theorem geocoder_only_adds (setting : Setting) (geocoder : Geocoder) (t : Template)
    (header : Header) (cells : List Datum) (progress : Progress) (asked : List AddressQuery) :
    let enriched := expandRow (setting.asking (some geocoder)) t header cells progress
    let plain := expandRow (setting.asking none) t header cells { progress with asked }
    enriched.2.minted = plain.2.minted ∧
    ((∃ error, enriched.1 = .error error ∧ plain.1 = .error error) ∨
      ∃ (result : Scope) (without : Expansion),
        ((Expanding.row (setting.asking (some geocoder)) t header cells).run progress).1 =
          .ok result ∧
        enriched.1 = .ok (result.expansion setting.language) ∧ plain.1 = .ok without ∧
        Transcript geocoder progress.asked result.allLookups enriched.2.asked ∧
        without.statements.Sublist (result.statements setting.language) ∧
        Extends (fun s => ∃ lookup ∈ result.allLookups, lookup.Offers setting.language s)
          without.statements (result.statements setting.language) ∧
        (∀ lookup ∈ result.allLookups, ∀ candidate, lookup.Offers setting.language candidate →
          ∃ s ∈ result.statements setting.language,
            s.subject = candidate.subject ∧ s.predicate = candidate.predicate) ∧
        (result.diagnostics setting.language).filter Diagnostic.isSkippedValue =
          without.diagnostics.filter Diagnostic.isSkippedValue) := by
  intro enriched plain
  obtain ⟨last, last', minted, ⟨error, fails, fails'⟩ |
    ⟨result, _, without, yields, yields', transcript, compared⟩⟩ :=
    expandsInLockstep setting geocoder setting.language t { header, cells } [] none progress
      { progress with asked } rfl
  · have failed : enriched = (.error error, last) := expandRow_of_fails fails
    have failed' : plain = (.error error, last') := expandRow_of_fails fails'
    rw [failed, failed']
    exact ⟨minted, .inl ⟨error, rfl, rfl⟩⟩
  · have done : enriched = (.ok (result.expansion setting.language), last) :=
      expandRow_of_yields yields
    have done' : plain = (.ok (without.expansion setting.language), last') :=
      expandRow_of_yields yields'
    obtain ⟨_, rfl, output⟩ := compared
    rw [done, done']
    refine ⟨minted, .inr ⟨result, without.expansion setting.language, congrArg Prod.fst yields, rfl,
      rfl, transcript, output.extended.sublist, output.extended.mono ?_, ?_, output.skipped⟩⟩
    · rintro s ⟨lookup, member, offered⟩
      exact ⟨lookup, member, Lookup.mem_candidates_iff.mp offered⟩
    · intro lookup member candidate offered
      obtain ⟨s, stated, same⟩ :=
        output.occupied lookup member candidate (Lookup.mem_candidates_iff.mpr offered)
      exact ⟨s, stated, Statement.sameSlot_iff.mp same⟩

end RowTriples
