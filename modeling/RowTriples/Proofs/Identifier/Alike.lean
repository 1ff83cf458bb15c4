import RowTriples.Proofs.Identifier.Agenda
import RowTriples.Proofs.Pointwise
/-!
# What the identification by content looks at

Of an entry the identification by content looks at the symbol and at the parts of the content, and
of a row at the values in these parts and at the identifiers that columns supply. Where these are
the same, the outcome is the same: the same identifiers, the same link that leads nowhere, or the
same cycle. The two agendas go in step: entries that are alike have their turns at the same time.
-/

namespace RowTriples

/-- Two entries, each for its own row, are identified by the same content. -/
structure Entry.Alike (row row' : Row) (entry entry' : Entry) : Prop where
  symbol : entry.symbol = entry'.symbol
  parts : entry.contentParts row = entry'.contentParts row'

def ContentPart.target? : ContentPart → Option String
  | .value _ => none
  | .link target => some target

theorem Entry.links_eq_filterMap (entry : Entry) (row : Row) :
    entry.links = (entry.contentParts row).filterMap ContentPart.target? := by
  rw [contentParts, List.filterMap_cons, List.filterMap_filterMap, links]
  refine List.filterMap_congr ?_
  intro rule _
  cases rule.target with
  | column name =>
      simp only
      split <;> rfl
  | type => rfl
  | symbol name => rfl
  | repeated name symbol => rfl

namespace Entry.Alike

variable {row row' : Row} {entry entry' : Entry}

theorem links (h : entry.Alike row row' entry') : entry.links = entry'.links := by
  rw [entry.links_eq_filterMap row, entry'.links_eq_filterMap row', h.parts]

theorem contentId (h : entry.Alike row row' entry') (mode : Mode) (file : String)
    (ids : Identifiers) :
    entry.contentId mode file row ids = entry'.contentId mode file row' ids := by
  rw [Entry.contentId, Entry.contentId, h.parts]

end Entry.Alike

namespace Identifiers

variable {row row' : Row} {mode : Mode} {file : String}
variable {entries entries' pending pending' : List Entry}

theorem symbols_eq (h : List.Forall₂ (Entry.Alike row row') entries entries') :
    entries.map (·.symbol) = entries'.map (·.symbol) := by
  rw [← List.forall₂_eq_eq_eq, List.forall₂_map_left_iff, List.forall₂_map_right_iff]
  exact h.imp fun _ _ alike => alike.symbol

/-- The same symbols wait for their identifiers. -/
theorem any_symbol_eq (h : List.Forall₂ (Entry.Alike row row') pending pending') (name : String) :
    pending.any (·.symbol = name) = pending'.any (·.symbol = name) := by
  have waits (entries : List Entry) :
      entries.any (·.symbol = name) = (entries.map (·.symbol)).any (· = name) := by
    rw [List.any_map]
    rfl
  rw [waits, waits, symbols_eq h]

theorem takeBound_congr (bound : ∀ name, row.boundId? name = row'.boundId? name)
    (ids : Identifiers) (alike : List.Forall₂ (Entry.Alike row row') entries entries')
    (waiting : List.Forall₂ (Entry.Alike row row') pending pending') :
    (takeBound row entries ids pending).1 = (takeBound row' entries' ids pending').1 ∧
      List.Forall₂ (Entry.Alike row row') (takeBound row entries ids pending).2
        (takeBound row' entries' ids pending').2 := by
  induction alike generalizing ids pending pending' with
  | nil => exact ⟨rfl, waiting⟩
  | @cons entry entry' _ _ first _ ih =>
      rw [takeBound, takeBound, ← first.symbol, ← bound, ← any_symbol_eq waiting]
      split
      · exact ih _ waiting
      · split
        · exact ih _ waiting
        · exact ih _ (List.rel_append waiting (.cons first .nil))

theorem danglingLink?_congr {ids : Identifiers}
    (alike : List.Forall₂ (Entry.Alike row row') pending pending') :
    danglingLink? ids pending = danglingLink? ids pending' := by
  have leads (name : String) := any_symbol_eq alike name
  have each : ∀ {some some' : List Entry}, List.Forall₂ (Entry.Alike row row') some some' →
      (some.findSome? fun entry => (entry.links.find? fun target =>
        !pending.any (·.symbol = target) && !Entries.has target ids).map (·, entry.symbol)) =
      some'.findSome? fun entry => (entry.links.find? fun target =>
        !pending'.any (·.symbol = target) && !Entries.has target ids).map (·, entry.symbol) := by
    intro some some' alike
    induction alike with
    | nil => rfl
    | cons first _ ih =>
        rw [List.findSome?_cons, List.findSome?_cons, ih, first.links, first.symbol]
        simp only [leads]
  exact each alike

theorem openLinks_congr (alike : List.Forall₂ (Entry.Alike row row') pending pending')
    {entry entry' : Entry} (h : entry.Alike row row' entry') :
    openLinks pending entry = openLinks pending' entry' := by
  rw [openLinks, openLinks, h.links]
  exact congrArg (List.countP · entry'.links) (funext fun target => any_symbol_eq alike target)

theorem dependents_congr (alike : List.Forall₂ (Entry.Alike row row') pending pending')
    (symbol : String) :
    List.Forall₂ (Entry.Alike row row') (dependents pending symbol)
      (dependents pending' symbol) := by
  refine List.rel_flatMap alike fun entry entry' same => ?_
  rw [same.links]
  exact forall₂_replicate same _

end Identifiers

/-! ### Agendas in step -/

/-- The two agendas have found the same, and entries that are alike are ready. -/
structure Agenda.Alike (row row' : Row) (agenda agenda' : Agenda) : Prop where
  ids : agenda.ids = agenda'.ids
  missing : agenda.missing = agenda'.missing
  ready : List.Forall₂ (Entry.Alike row row') agenda.ready agenda'.ready
  done : agenda.done = agenda'.done

namespace Agenda.Alike

open Identifiers (symbols_eq)

variable {row row' : Row} {agenda agenda' : Agenda} {entry entry' : Entry}
variable {pending pending' : List Entry}

theorem missingOf (h : agenda.Alike row row' agenda') (same : entry.Alike row row' entry') :
    agenda.missingOf entry = agenda'.missingOf entry' := by
  rw [Agenda.missingOf, Agenda.missingOf, h.missing, same.symbol]

theorem release (h : agenda.Alike row row' agenda') (same : entry.Alike row row' entry') :
    (agenda.release entry).Alike row row' (agenda'.release entry') := by
  refine ⟨h.ids, ?_, ?_, h.done⟩
  · simp only [Agenda.release, h.missingOf same, h.missing, same.symbol]
  · simp only [Agenda.release, h.missingOf same]
    split
    · exact List.rel_append h.ready (.cons same .nil)
    · exact h.ready

theorem foldl_release {released released' : List Entry} (h : agenda.Alike row row' agenda')
    (same : List.Forall₂ (Entry.Alike row row') released released') :
    (released.foldl Agenda.release agenda).Alike row row'
      (released'.foldl Agenda.release agenda') := by
  induction same generalizing agenda agenda' with
  | nil => exact h
  | cons first _ ih => exact ih (h.release first)

variable {identify identify' : Identifiers → Entry → String}

/-- Entries that are alike get the same identifier and are waited for by entries that are alike. -/
theorem turn (h : agenda.Alike row row' agenda')
    (alike : List.Forall₂ (Entry.Alike row row') pending pending')
    (identified : ∀ ids (entry entry' : Entry), entry.Alike row row' entry' →
      identify ids entry = identify' ids entry')
    (same : entry.Alike row row' entry') {ready ready' : List Entry}
    (rest : List.Forall₂ (Entry.Alike row row') ready ready') :
    (agenda.turn identify pending entry ready).Alike row row'
      (agenda'.turn identify' pending' entry' ready') := by
  have dependents := Identifiers.dependents_congr alike entry.symbol
  rw [Agenda.turn, Agenda.turn, ← same.symbol]
  refine foldl_release ⟨?_, h.missing, rest, congrArg (· + 1) h.done⟩ dependents
  simp only [h.ids, identified _ _ _ same]

theorem run (h : agenda.Alike row row' agenda')
    (alike : List.Forall₂ (Entry.Alike row row') pending pending')
    (identified : ∀ ids (entry entry' : Entry), entry.Alike row row' entry' →
      identify ids entry = identify' ids entry') (turns : Nat) :
    (agenda.run identify pending turns).Alike row row'
      (agenda'.run identify' pending' turns) := by
  induction turns generalizing agenda agenda' with
  | zero => exact h
  | succ turns ih =>
      have ready := h.ready
      rw [Agenda.run, Agenda.run]
      split
      next empty =>
        rw [empty, List.forall₂_nil_left_iff] at ready
        rw [ready]
        exact h
      next entry rest queue =>
        rw [queue] at ready
        obtain ⟨entry', rest', same, others, queue'⟩ := List.forall₂_cons_left_iff.mp ready
        rw [queue']
        exact ih (h.turn alike identified same others)

theorem start (alike : List.Forall₂ (Entry.Alike row row') pending pending') (ids : Identifiers) :
    (Agenda.start pending ids).Alike row row' (.start pending' ids) := by
  refine ⟨rfl, ?_, ?_, rfl⟩
  · simp only [Agenda.start]
    rw [← List.forall₂_eq_eq_eq, List.forall₂_map_left_iff, List.forall₂_map_right_iff]
    refine alike.imp fun entry entry' same => ?_
    rw [same.symbol, Identifiers.openLinks_congr alike same]
  · refine List.rel_filter (fun entry entry' same => ?_) alike
    simp only [Identifiers.openLinks_congr alike same]

/-- The same symbols are left waiting. -/
theorem waiting (h : agenda.Alike row row' agenda')
    (alike : List.Forall₂ (Entry.Alike row row') pending pending') :
    (agenda.waiting pending).map (·.symbol) = (agenda'.waiting pending').map (·.symbol) := by
  have rest : List.Forall₂ (Entry.Alike row row') (agenda.waiting pending)
      (agenda'.waiting pending') := by
    refine List.rel_filter (fun entry entry' same => ?_) alike
    simp only [h.missingOf same]
  exact symbols_eq rest

end Agenda.Alike

namespace Identifiers

variable {row row' : Row} {mode : Mode} {file : String}
variable {entries entries' pending pending' : List Entry}

theorem identifyPending_congr (mode : Mode) (file : String)
    (alike : List.Forall₂ (Entry.Alike row row') pending pending') (ids : Identifiers) :
    Agenda.Alike row row' (identifyPending mode file row pending ids)
      (identifyPending mode file row' pending' ids) := by
  rw [identifyPending, identifyPending, alike.length_eq]
  exact (Agenda.Alike.start alike ids).run alike
    (fun ids _ _ same => same.contentId mode file ids) pending'.length

/-- Entries that are alike are identified alike, or fail alike. -/
theorem byContent_congr (bound : ∀ name, row.boundId? name = row'.boundId? name)
    {inherited : Identifiers} (alike : List.Forall₂ (Entry.Alike row row') entries entries') :
    byContent mode file row entries inherited = byContent mode file row' entries' inherited := by
  obtain ⟨taken, pending⟩ :=
    takeBound_congr bound inherited alike (.nil : List.Forall₂ (Entry.Alike row row') [] [])
  have agendas := identifyPending_congr mode file pending
    (takeBound row' entries' inherited []).1
  simp only [byContent, taken, danglingLink?_congr pending, pending.length_eq, agendas.done,
    agendas.ids, agendas.waiting pending]

end Identifiers

end RowTriples
