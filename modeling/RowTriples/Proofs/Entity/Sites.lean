import RowTriples.Proofs.Entity.Instances
/-!
# Sites and scopes

A chain of branches leads to a site of the template and to a scope of the row, in every mode. Where
content decides, a scope is entered with the identifiers of the scope around it and nothing else.
Otherwise each link on the way may have given its symbol another identifier, and the latest one
counts. So the links that a site remembers tell which identifiers the scope there shares with the
scopes around it, and where the others come from.
-/

namespace RowTriples

open Expanding

theorem Scope.follow?_append {result : Scope} {chain beyond : List Branch} :
    result.follow? (chain ++ beyond) = (result.follow? chain).bind (·.follow? beyond) := by
  induction chain generalizing result with
  | nil => rfl
  | cons branch chain ih =>
      simp only [List.cons_append, Scope.follow?, Option.bind_assoc]
      exact congrArg _ (funext fun occurrence => ih)

namespace Site

/-- The linked symbols that got identifiers on the way, the latest first. Where content decides
there are none. -/
def relinked (setting : Setting) (site : Site) : List (String × Mint) :=
  if setting.mode.isDeterministic then [] else site.seeds

/-- The symbols that have an identifier when the site is entered. -/
def Knows (setting : Setting) (site : Site) (name : String) : Prop :=
  name ∈ site.around ∨ name ∈ (site.relinked setting).map Prod.fst

/-- The symbols that have an identifier at the site. -/
def InScope (setting : Setting) (site : Site) (name : String) : Prop :=
  site.Knows setting name ∨ name ∈ site.template.symbols

/-- The scope is what the template of the site expands to, entered with the identifiers of the scope
around and with those given by links on the way. -/
structure Matches (setting : Setting) (site : Site) (inherited : Identifiers) (result : Scope) :
    Prop where
  expands : Expands setting site.template site.row inherited site.element result
  names : ∀ name, name ∈ Entries.names inherited ↔
    name ∈ site.around ∨ name ∈ (site.relinked setting).map Prod.fst
  linked : ∀ name mint, (site.relinked setting).lookup name = some mint →
    ∃ id, Entries.get? name inherited = some id ∧ (mint.source setting name).Gives setting.fresh id

section Paths

variable {setting : Setting} {site next : Site} {branch : Branch} {chain beyond : List Branch}

theorem relinked_of_deterministic (mode : setting.mode.isDeterministic = true) :
    site.relinked setting = [] :=
  if_pos mode

theorem relinked_of_positional (mode : setting.mode.isDeterministic = false) :
    site.relinked setting = site.seeds :=
  if_neg (by simp [mode])

theorem follow?_append :
    site.follow? (chain ++ beyond) = (site.follow? chain).bind (·.follow? beyond) := by
  induction chain generalizing site with
  | nil => rfl
  | cons branch chain ih =>
      simp only [List.cons_append, follow?, Option.bind_assoc]
      exact congrArg _ (funext fun middle => ih)

/-- The template of a site is where the chain leads in the outermost template. -/
theorem template_follow? (found : site.follow? chain = some next) :
    site.template.follow? chain = some next.template := by
  induction chain generalizing site with
  | nil =>
      cases found
      rfl
  | cons branch chain ih =>
      obtain ⟨middle, first, found⟩ := Option.bind_eq_some_iff.mp found
      obtain ⟨symbol, iteration, inner, value, part, _, rfl⟩ := branch?_eq_some_iff.mp first
      exact Option.bind_eq_some_iff.mpr ⟨_, part, ih found⟩

/-- Symbols that are not linked on a longer way are not linked on a shorter one. -/
theorem not_relinked_of_follow? (found : site.follow? chain = some next) {name : String}
    (unlinked : (next.relinked setting).lookup name = none) :
    (site.relinked setting).lookup name = none := by
  induction chain generalizing site with
  | nil =>
      cases found
      exact unlinked
  | cons branch chain ih =>
      obtain ⟨middle, first, found⟩ := Option.bind_eq_some_iff.mp found
      obtain ⟨symbol, iteration, inner, value, _, _, rfl⟩ := branch?_eq_some_iff.mp first
      have unlinked := ih found
      cases mode : setting.mode.isDeterministic with
      | true => rw [relinked_of_deterministic mode, List.lookup_nil]
      | false =>
          rw [relinked_of_positional mode] at unlinked ⊢
          simp only [enter, List.lookup_cons] at unlinked
          split at unlinked
          · cases unlinked
          · exact unlinked

/-- A repetition is entered with the symbols in scope and, where identifiers do not depend on
content, with the linked one. -/
theorem knows_enter_iff {i : Nat} {symbol : String} {iteration : Iteration} {inner : Template}
    {value : Datum} (name : String) :
    (site.enter i symbol iteration inner value).Knows setting name ↔
      site.InScope setting name ∨ (setting.mode.isDeterministic = false ∧ name = symbol) := by
  cases mode : setting.mode.isDeterministic with
  | true =>
      simp [Knows, InScope, relinked_of_deterministic mode, enter]
  | false =>
      simp only [Knows, InScope, relinked_of_positional mode, enter, List.mem_append, List.map_cons,
        List.mem_cons, true_and]
      tauto

end Paths

end Site

namespace Site.Matches

variable {setting : Setting} {site next : Site} {inherited : Identifiers} {result inner : Scope}
variable {branch : Branch} {chain : List Branch}

theorem root {t : Template} {row : Row} (expanded : Expands setting t row [] none result) :
    (Site.root t row).Matches setting [] result :=
  ⟨expanded, by simp [Site.root, Site.relinked, Entries.names],
    by simp [Site.root, Site.relinked]⟩

/-- Where identifiers do not depend on content, all links on the way have given identifiers. -/
theorem holds (positional : setting.mode.isDeterministic = false)
    (h : site.Matches setting inherited result) : site.Holds setting inherited result := by
  have relinked : site.relinked setting = site.seeds := Site.relinked_of_positional positional
  exact ⟨h.expands, relinked ▸ h.names, relinked ▸ h.linked⟩

theorem inScope_iff (h : site.Matches setting inherited result) (name : String) :
    name ∈ Entries.names result.identifiers ↔ site.InScope setting name := by
  rw [h.expands.run.1.names, h.names]
  rfl

/-- A repetition of a scope that matches a site matches the site inside. It is entered with the
identifiers of the scope around, except for the symbols that were linked on the way. -/
theorem enter (h : site.Matches setting inherited result) {symbol : String} {iteration : Iteration}
    {part : Template} {value : Datum} {i : Nat} {occurrence : String × Scope}
    (repeats : Repeats setting site.template.options site.derived result.identifiers symbol
      iteration.variableName (Expanding.template setting part) (value, i) occurrence) :
    ∃ seed, (site.enter i symbol iteration part value).Matches setting seed occurrence.2 ∧
      ∀ name, ((site.enter i symbol iteration part value).relinked setting).lookup name = none →
        Entries.get? name seed = Entries.get? name result.identifiers := by
  obtain ⟨_, seed, seeds, entered⟩ := repeats
  have outer (name : String) : name ∈ Entries.names result.identifiers ↔
      (name ∈ site.around ∨ name ∈ site.template.symbols) ∨
        name ∈ (site.relinked setting).map Prod.fst := by
    rw [h.expands.run.1.names, h.names, or_right_comm]
  have entry := seeds.names
  rcases seeds with ⟨mode, rfl⟩ | ⟨mode, given, rfl, gives⟩
  · refine ⟨result.identifiers, ⟨entered, fun name => ?_, ?_⟩, fun _ _ => rfl⟩
    · rw [outer, Site.relinked_of_deterministic mode, Site.relinked_of_deterministic mode]
      simp [Site.enter]
    · simp [Site.relinked_of_deterministic mode]
  · have links : (site.enter i symbol iteration part value).relinked setting =
        (symbol, ⟨site.template.options, site.derived.bind iteration.variableName value .iteration,
          some i⟩) :: site.relinked setting := by
      rw [Site.relinked_of_positional mode, Site.relinked_of_positional mode]
      rfl
    refine ⟨_, ⟨entered, fun name => ?_, fun name mint lookup => ?_⟩, fun name lookup => ?_⟩
    · rw [entry, outer, links]
      simp only [Site.enter, mode, List.mem_append, List.map_cons, List.mem_cons, true_and]
      tauto
    · rw [links, List.lookup_cons] at lookup
      rw [Entries.get?_put]
      by_cases same : symbol = name
      · subst same
        simp only [beq_self_eq_true] at lookup
        cases lookup
        exact ⟨given, if_pos rfl, gives⟩
      · simp only [beq_eq_false_iff_ne.mpr (Ne.symm same)] at lookup
        obtain ⟨id, found, gives⟩ := h.linked name mint lookup
        have kept := h.expands.run.1.kept (Entries.mem_names_of_get? found)
        exact ⟨id, by rw [if_neg same, kept, found], gives⟩
    · rw [links, List.lookup_cons] at lookup
      have other : symbol ≠ name := by
        rintro rfl
        simp at lookup
      rw [Entries.get?_put, if_neg other]

/-- Behind every branch of a site, a scope that matches the site has a scope that matches the next
site. It is linked by the identifier of the linked symbol, and it shares with the scope around the
identifiers of all symbols that were not linked on the way. -/
theorem step (h : site.Matches setting inherited result) (found : site.branch? branch = some next) :
    ∃ symbol part id repetition seed, site.template.branch? branch = some (symbol, part) ∧
      result.branch? branch = some (id, repetition) ∧
      Entries.get? symbol repetition.identifiers = some id ∧
      next.Matches setting seed repetition ∧
      ∀ name, (next.relinked setting).lookup name = none →
        Entries.get? name seed = Entries.get? name result.identifiers := by
  obtain ⟨symbol, iteration, inner, value, part, valueAt, rfl⟩ := branch?_eq_some_iff.mp found
  obtain ⟨⟨id, repetition⟩, occurrenceAt, repeats⟩ := h.expands.exists_branch? part valueAt
  obtain ⟨seed, holds, shared⟩ := h.enter repeats
  exact ⟨symbol, _, id, repetition, seed, part, occurrenceAt, repeats.1, holds, shared⟩

/-- Behind every chain of branches of a site, a scope that matches the site has a scope that matches
the site there. An identifier of the scope is kept on the way unless its symbol is linked. -/
theorem follow (h : site.Matches setting inherited result)
    (found : site.follow? chain = some next) :
    ∃ inner seed, result.follow? chain = some inner ∧ next.Matches setting seed inner ∧
      ∀ name id, (next.relinked setting).lookup name = none →
        Entries.get? name result.identifiers = some id →
        Entries.get? name inner.identifiers = some id := by
  induction chain generalizing site inherited result with
  | nil =>
      cases found
      exact ⟨result, inherited, rfl, h, fun _ _ _ known => known⟩
  | cons branch chain ih =>
      obtain ⟨middle, first, found⟩ := Option.bind_eq_some_iff.mp found
      obtain ⟨_, _, id, repetition, seed, _, occurrenceAt, _, holds, shared⟩ := h.step first
      obtain ⟨inner, seed', reached, holds', kept⟩ := ih holds found
      refine ⟨inner, seed', by simp [Scope.follow?, occurrenceAt, reached], holds', ?_⟩
      intro name id unlinked known
      have entered := (shared name (Site.not_relinked_of_follow? found unlinked)).trans known
      exact kept name id unlinked
        ((holds.expands.run.1.kept (Entries.mem_names_of_get? entered)).trans entered)

/-- Every scope behind a scope that matches a site matches a site behind that site. -/
theorem exists_site (h : site.Matches setting inherited result)
    (reached : result.follow? chain = some inner) :
    ∃ next seed, site.follow? chain = some next ∧ next.Matches setting seed inner := by
  induction chain generalizing site inherited result with
  | nil =>
      cases reached
      exact ⟨site, inherited, rfl, h⟩
  | cons branch chain ih =>
      obtain ⟨⟨id, middle⟩, first, reached⟩ := Option.bind_eq_some_iff.mp reached
      obtain ⟨symbol, iteration, part, value, linked, valueAt, repeats⟩ :=
        h.expands.repeats_of_branch? first
      obtain ⟨seed, holds, _⟩ := h.enter repeats
      obtain ⟨next, seed', found, holds'⟩ := ih holds reached
      have step :
          site.branch? branch = some (site.enter branch.element symbol iteration part value) :=
        Site.branch?_eq_some_iff.mpr ⟨symbol, iteration, part, value, linked, valueAt, rfl⟩
      exact ⟨next, seed', Option.bind_eq_some_iff.mpr ⟨_, step, found⟩, holds'⟩

end Site.Matches

end RowTriples
