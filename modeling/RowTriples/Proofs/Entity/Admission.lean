import RowTriples.Proofs.Entity.Census
import RowTriples.Proofs.Entity.Lockstep
/-!
# Which rows expand

A row is refused when one of the scopes that it enters is: because a link of an entry leads nowhere,
because the symbol that the scope is linked by has no identifier there, or because the identifiers
by content go round in a circle. Each of these is a matter of names. The values of the row count in
two ways only. They tell which repetitions are entered at all, and a value that a binding derives
for a symbol takes the symbol out of the circle. So a row expands if another row does that enters
scopes at the same places of the template and that supplies no more symbols.
-/

namespace RowTriples

open Expanding

namespace Site

/-- A column supplies the identifier of a symbol. -/
def Binds (site : Site) (symbol : String) : Prop :=
  ∃ value, site.derived.Supplies symbol value

/-- An entry of the site is identified by its content, where content decides. -/
structure Pending (site : Site) (entry : Entry) : Prop where
  first : site.template.entries.find? (·.symbol = entry.symbol) = some entry
  new : entry.symbol ∉ site.around
  unbound : ¬site.Binds entry.symbol

/-- Nothing refuses the scope of the site: the links of its entries lead to symbols in scope, so
does the link to the site itself, and where content decides no entries wait for each other. -/
structure Admits (setting : Setting) (site : Site) : Prop where
  links : ∀ entry ∈ site.template.entries, ∀ name ∈ entry.links, site.InScope setting name
  linked : ∀ symbol ∈ (site.seeds.map Prod.fst).head?, site.InScope setting symbol
  acyclic : setting.mode.isDeterministic = true → ¬HasCycle site.Pending

/-- Nothing refuses any scope that is entered from the site. -/
def AdmitsAll (setting : Setting) (site : Site) : Prop :=
  ∀ chain next, site.follow? chain = some next → next.Admits setting

section Admission

variable {setting : Setting} {site next : Site} {inherited : Identifiers} {result : Scope}

theorem AdmitsAll.here (h : site.AdmitsAll setting) : site.Admits setting :=
  h [] site rfl

theorem AdmitsAll.inside (h : site.AdmitsAll setting) {branch : Branch}
    (step : site.branch? branch = some next) : next.AdmitsAll setting :=
  fun chain last found => h (branch :: chain) last (Option.bind_eq_some_iff.mpr ⟨next, step, found⟩)

/-- Where content decides, the entries that wait for identifiers are told by the names around. -/
theorem pending_iff (deterministic : setting.mode.isDeterministic = true)
    (names : ∀ name, name ∈ Entries.names inherited ↔ site.Knows setting name) {entry : Entry} :
    site.Pending entry ↔ entry.IsPending site.derived site.template.entries inherited := by
  have known (name : String) : name ∈ Entries.names inherited ↔ name ∈ site.around := by
    simp [names, Knows, relinked_of_deterministic deterministic]
  constructor
  · rintro ⟨first, new, unbound⟩
    exact ⟨first, (known _).not.mpr new, not_exists.mp unbound⟩
  · rintro ⟨first, new, unsupplied⟩
    exact ⟨first, (known _).not.mp new, not_exists.mpr unsupplied⟩

/-! ### A scope that has been entered -/

/-- A scope that has been entered was not refused. -/
theorem Matches.admits (h : site.Matches setting inherited result)
    (linked : ∀ symbol ∈ (site.seeds.map Prod.fst).head?, site.InScope setting symbol) :
    site.Admits setting := by
  refine ⟨?_, linked, fun deterministic cyclic => ?_⟩
  · intro entry member name link
    obtain ⟨rule, ruleMember, target⟩ := Entry.mem_links_iff.mp link
    obtain ⟨entity, _, instantiates⟩ := exists_of_mem_left h.expands.run.2 member
    obtain ⟨fact, _, becomes⟩ := exists_of_mem_left instantiates.facts ruleMember
    cases becomes <;> cases target
    next known => exact (h.inScope_iff name).mp (Entries.mem_names_of_get? known)
  · exact h.expands.run.1.acyclic deterministic
      (cyclic.mono fun entry => (pending_iff deterministic h.names).mp)

/-- A scope that was entered from a site without being refused has, behind every branch, one that
was not refused either. -/
theorem Matches.admitsAll (h : site.Matches setting inherited result)
    (linked : ∀ symbol ∈ (site.seeds.map Prod.fst).head?, site.InScope setting symbol) :
    site.AdmitsAll setting := by
  intro chain next found
  induction chain generalizing site inherited result with
  | nil =>
      cases found
      exact h.admits linked
  | cons branch chain ih =>
      obtain ⟨middle, step, found⟩ := Option.bind_eq_some_iff.mp found
      obtain ⟨symbol, _, id, repetition, seed, part, _, known, matched, _⟩ := h.step step
      refine ih matched ?_ found
      obtain ⟨symbol', iteration, inner, value, part', _, rfl⟩ := branch?_eq_some_iff.mp step
      obtain ⟨rfl, _⟩ := Prod.mk.inj (Option.some.inj (part.symm.trans part'))
      intro name member
      obtain rfl : symbol = name := Option.some.inj member
      exact (matched.inScope_iff _).mp (Entries.mem_names_of_get? known)

/-! ### A scope that can be entered -/

/-- The site can be entered with the identifiers that it expects, and then all symbols in scope have
identifiers. -/
def Opens (setting : Setting) (site : Site) : Prop :=
  ∀ inherited, (∀ name, name ∈ Entries.names inherited ↔ site.Knows setting name) →
    Succeeds
      (Expanding.template setting site.template site.row inherited site.element) fun result =>
      ∀ name, site.InScope setting name → name ∈ Entries.names result.identifiers

/-- A scope is entered without an error if nothing refuses it or those behind its branches and these
can be entered. -/
theorem Admits.opens (h : site.Admits setting) (complete : site.template.IsComplete)
    (inside : ∀ branch next, site.branch? branch = some next →
      next.Admits setting ∧ next.Opens setting) : site.Opens setting := by
  intro inherited names
  have expands : Succeeds (Expanding.template setting site.template site.row inherited site.element)
      fun result => ∀ name, name ∈ Entries.names inherited ∨ name ∈ site.template.symbols →
        name ∈ Entries.names result.identifiers := by
    refine succeeds_template ?_ ?_ ?_
    · rintro deterministic ⟨entry, pending, target, link, undeclared, unknown⟩
      rcases h.links entry pending.mem target link with known | declared
      · exact unknown ((names target).mpr known)
      · exact undeclared (mem_declaredSymbols.mp declared)
    · intro deterministic cyclic
      exact h.acyclic deterministic
        (cyclic.mono fun entry => (pending_iff deterministic names).mpr)
    · intro ids identified entry member rule ruleMember
      have inScope (name : String) : name ∈ Entries.names ids ↔ site.InScope setting name := by
        rw [identified.names, names]
        rfl
      apply succeeds_fact
      · intro name target
        exact (inScope name).mpr
          (h.links entry member name (Entry.mem_links_iff.mpr ⟨rule, ruleMember, target⟩))
      · intro name symbol target
        obtain ⟨⟨iteration, inner⟩, part⟩ :=
          complete.found entry member rule ruleMember name symbol target
        refine ⟨iteration, Expanding.template setting inner,
          by simp [lookup_subtemplatesOf, part], ?_⟩
        intro value i valueAt seed row seeds
        have step :
            ∃ branch, site.branch? branch = some (site.enter i symbol iteration inner value) :=
          mem_inner_iff.mp (List.mem_flatMap.mpr
            ⟨rule, List.mem_flatMap.mpr ⟨entry, member, ruleMember⟩, List.mem_of_getElem?
              (getElem?_repetitions.mpr
                ⟨name, symbol, iteration, inner, value, target, part, valueAt, rfl⟩)⟩)
        obtain ⟨branch, step⟩ := step
        obtain ⟨admits, opens⟩ := inside branch _ step
        refine (opens seed fun name => ?_).mono fun result known =>
          known symbol (admits.linked symbol rfl)
        rw [seeds.names, inScope, knows_enter_iff]
  exact expands.mono fun result known name inScope => known name (inScope.imp_left (names name).mpr)

/-- A site is entered without an error if nothing refuses it or any site behind it. -/
theorem AdmitsAll.opens {site : Site} (h : site.AdmitsAll setting)
    (complete : site.template.Everywhere Template.IsComplete) : site.Opens setting := by
  refine h.here.opens complete.here fun branch next step => ⟨(h.inside step).here, ?_⟩
  obtain ⟨symbol, iteration, inner, value, part, _, rfl⟩ := branch?_eq_some_iff.mp step
  exact (h.inside step).opens (complete.of_branch? part)
termination_by sizeOf site.template
decreasing_by exact sizeOf_lt_of_mem_inner (mem_inner_iff.mpr ⟨branch, step⟩)

end Admission

/-! ### Sites at one place of the template -/

/-- The sites are at the same place of the template, for different rows or different elements. -/
structure Alike (site other : Site) : Prop where
  template : other.template = site.template
  around : other.around = site.around
  seeds : other.seeds.map Prod.fst = site.seeds.map Prod.fst

end Site

/-- Where a branch leads in the template, whatever its element is. -/
def Branch.place (branch : Branch) : Nat × Nat :=
  (branch.entry, branch.rule)

theorem Template.branch?_of_place {t : Template} {branch branch' : Branch}
    (same : branch.place = branch'.place) : t.branch? branch = t.branch? branch' := by
  obtain ⟨entry, rule⟩ := Prod.mk.inj same
  rw [Template.branch?, Template.branch?, entry, rule]

namespace Site

section Places

variable {setting setting' : Setting} {site other next next' : Site} {chain chain' : List Branch}

theorem Alike.step (alike : site.Alike other) {branch branch' : Branch}
    (same : branch.place = branch'.place) (found : site.branch? branch = some next)
    (found' : other.branch? branch' = some next') : next.Alike next' := by
  obtain ⟨symbol, iteration, inner, value, part, _, rfl⟩ := branch?_eq_some_iff.mp found
  obtain ⟨symbol', iteration', inner', value', part', _, rfl⟩ := branch?_eq_some_iff.mp found'
  rw [alike.template, ← Template.branch?_of_place same, part] at part'
  cases part'
  refine ⟨rfl, ?_, ?_⟩
  · simp [enter, alike.around, alike.template]
  · simp [enter, alike.seeds]

/-- Chains through the same places of the template lead to sites at the same place. -/
theorem Alike.follow (alike : site.Alike other)
    (same : chain.map Branch.place = chain'.map Branch.place)
    (found : site.follow? chain = some next) (found' : other.follow? chain' = some next') :
    next.Alike next' := by
  induction chain generalizing chain' site other with
  | nil =>
      obtain rfl : chain' = [] := List.map_eq_nil_iff.mp same.symm
      cases found
      cases found'
      exact alike
  | cons branch chain ih =>
      obtain ⟨branch', chain', rfl, here, rest⟩ := List.map_eq_cons_iff.mp same.symm
      obtain ⟨middle, step, found⟩ := Option.bind_eq_some_iff.mp found
      obtain ⟨middle', step', found'⟩ := Option.bind_eq_some_iff.mp found'
      exact ih (alike.step here.symm step step') rest.symm found found'

theorem Alike.inScope (alike : site.Alike other) (mode : setting'.mode = setting.mode)
    {name : String} (known : site.InScope setting name) : other.InScope setting' name := by
  have relinked : (other.relinked setting').map Prod.fst =
      (site.relinked setting).map Prod.fst := by
    unfold Site.relinked
    rw [mode]
    split
    · rfl
    · exact alike.seeds
  unfold InScope Knows at known ⊢
  rwa [relinked, alike.around, alike.template]

/-- What is not refused at a place is not refused there for another row either, unless that row
leaves unbound a symbol which the first one binds. -/
theorem Admits.alike (h : site.Admits setting) (alike : site.Alike other)
    (mode : setting'.mode = setting.mode)
    (bound : setting.mode.isDeterministic = true →
      ∀ symbol ∈ site.template.symbols, site.Binds symbol → other.Binds symbol) :
    other.Admits setting' := by
  refine ⟨fun entry member name link => ?_, fun symbol member => ?_, fun deterministic cyclic => ?_⟩
  · rw [alike.template] at member
    exact alike.inScope mode (h.links entry member name link)
  · rw [alike.seeds] at member
    exact alike.inScope mode (h.linked symbol member)
  · rw [mode] at deterministic
    refine h.acyclic deterministic (cyclic.mono fun entry pending => ?_)
    obtain ⟨first, new, unbound⟩ := pending
    rw [alike.template] at first
    rw [alike.around] at new
    have declared : entry.symbol ∈ site.template.symbols :=
      mem_declaredSymbols.mpr (List.mem_map_of_mem (List.mem_of_find?_eq_some first))
    exact ⟨first, new, fun binds => unbound (bound deterministic _ declared binds)⟩

end Places

end Site

/-- A row of a loaded template expands exactly if none of the scopes that it enters is refused. -/
theorem exists_expandRow_iff {setting : Setting} {t : Template} {header : Header}
    {cells : List Datum}
    {progress : Progress} (loaded : t.IsLoaded) :
    (∃ expansion, (expandRow setting t header cells progress).1 = .ok expansion) ↔
      (Site.root t { header, cells }).AdmitsAll setting := by
  constructor
  · rintro ⟨expansion, done⟩
    obtain ⟨result, progress', yields, _⟩ := exists_scope_of_expandRow done
    exact (Site.Matches.root ⟨progress, progress', yields⟩).admitsAll nofun
  · intro admits
    have names : ∀ name, name ∈ Entries.names ([] : Identifiers) ↔
        (Site.root t { header, cells }).Knows setting name := by
      simp [Site.Knows, Site.root, Site.relinked, Entries.names]
    obtain ⟨result, progress', yields, _⟩ := admits.opens loaded.complete [] names progress
    exact ⟨_, congrArg Prod.fst (expandRow_of_yields yields)⟩

/-- What keeps a row from being expanded is a matter of the template, apart from two things that the
data decide: which repetitions are entered and, where content decides, for which symbols a binding
derives a value. A row of a loaded template expands exactly if every scope that it enters admits it.
If it does, then so does every other row, in any setting of the same mode, which enters scopes only
at places of the template where the first row enters one as well, and which binds every symbol there
that the first row binds. No other value of the row, no answer of the geocoder and nothing that was
taken from outside before can stop it. -/
theorem expands_if_entered (setting : Setting) (t : Template) (header : Header) (cells : List Datum)
    (progress : Progress) (loaded : t.IsLoaded) :
    ((∃ expansion, (expandRow setting t header cells progress).1 = .ok expansion) ↔
      ∀ chain site, (Site.root t { header, cells }).follow? chain = some site →
        site.Admits setting) ∧
    ∀ (setting' : Setting) (header' : Header) (cells' : List Datum) (progress' : Progress),
      setting'.mode = setting.mode →
      (∃ expansion, (expandRow setting t header cells progress).1 = .ok expansion) →
      (∀ chain' site', (Site.root t ⟨header', cells', []⟩).follow? chain' = some site' →
        ∃ chain site, (Site.root t { header, cells }).follow? chain = some site ∧
          chain.map Branch.place = chain'.map Branch.place ∧
          (setting.mode.isDeterministic = true →
            ∀ symbol ∈ site.template.symbols, site.Binds symbol → site'.Binds symbol)) →
      ∃ expansion, (expandRow setting' t header' cells' progress').1 = .ok expansion := by
  refine ⟨exists_expandRow_iff loaded,
    fun setting' header' cells' progress' mode done covered => ?_⟩
  rw [exists_expandRow_iff loaded] at done ⊢
  intro chain' site' found'
  obtain ⟨chain, site, found, places, bound⟩ := covered chain' site' found'
  have alike : (Site.root t { header, cells }).Alike (Site.root t ⟨header', cells', []⟩) :=
    ⟨rfl, rfl, rfl⟩
  exact (done chain site found).alike (alike.follow places found found') mode bound

/-! ### Pets that fear a ghost -/

/-- An owner with pets, each of which fears a ghost that nobody declares. -/
def hauntedDocument : Document :=
  .map [("TEMPLATE", .sequence [.sequence [.text "Owner", .map [("GENSYM", .text "owner"),
      ("SUBTEMPLATE_pets.GENSYM_pet", .text "keeps")]]]),
    ("SUBTEMPLATES", .map [("pets", .map [
      ("TEMPLATE", .sequence [.sequence [.text "Pet", .map [("GENSYM", .text "pet"),
        ("GENSYM_ghost", .text "fears")]]]),
      ("ITERABLE", .sequence [.sequence [.text "pets", .text "animal"]])])])]

def hauntedTemplate : Template :=
  ⟨[⟨"Owner", "owner", [⟨.type, []⟩, ⟨.repeated "pets" "pet", ["keeps"]⟩]⟩],
    [("pets", ⟨"pets", "animal"⟩,
      ⟨[⟨"Pet", "pet", [⟨.type, []⟩, ⟨.symbol "ghost", ["fears"]⟩]⟩], [], [], {}⟩)], [], {}⟩

/-- An owner without pets enters no other scope. -/
theorem follow?_hauntedRoot {cells : List Datum} {chain : List Branch} {site : Site}
    (petless : ({ header := ⟨["pets", "name"]⟩, cells } : Row).values "pets" = [])
    (found : (Site.root hauntedTemplate ⟨⟨["pets", "name"]⟩, cells, []⟩).follow? chain =
      some site) :
    chain = [] ∧ site = Site.root hauntedTemplate ⟨⟨["pets", "name"]⟩, cells, []⟩ := by
  cases chain with
  | nil =>
      cases found
      exact ⟨rfl, rfl⟩
  | cons branch chain =>
      obtain ⟨_, step, _⟩ := Option.bind_eq_some_iff.mp found
      obtain ⟨symbol, iteration, inner, value, part, valueAt, _⟩ := Site.branch?_eq_some_iff.mp step
      obtain ⟨_, name, _, _, _, partAt⟩ := Template.branch?_eq_some_iff.mp part
      cases List.mem_singleton.mp (mem_of_lookup partAt)
      have valueAt : (Row.values ⟨⟨["pets", "name"]⟩, cells, []⟩ "pets")[branch.element]? =
        some value := valueAt
      rw [petless] at valueAt
      cases valueAt

/-- Since Ada without pets expands, so does Bob. -/
theorem expands_if_entered_haunted :
    hauntedTemplate.IsLoaded ∧
    (∃ expansion, (expandRow recordSetting hauntedTemplate ⟨["pets", "name"]⟩
      [.text "", .text "Ada"] {}).1 = .ok expansion) ∧
    ∃ expansion, (expandRow recordSetting hauntedTemplate ⟨["pets", "name"]⟩
      [.text "", .text "Bob"] {}).1 = .ok expansion := by
  have loaded : hauntedTemplate.IsLoaded := ⟨true, hauntedDocument, rfl⟩
  have done : ∃ expansion, (expandRow recordSetting hauntedTemplate ⟨["pets", "name"]⟩
      [.text "", .text "Ada"] {}).1 = .ok expansion := ⟨_, rfl⟩
  refine ⟨loaded, done, ?_⟩
  refine (expands_if_entered recordSetting hauntedTemplate _ _ {} loaded).2 recordSetting _ _ {} rfl
    done fun chain site found => ?_
  obtain ⟨rfl, rfl⟩ := follow?_hauntedRoot rfl found
  exact ⟨[], _, rfl, rfl, nofun⟩

/-- Two people who know each other. A binding names one of them, if it can read her town. -/
def neighboursDocument : Document :=
  .map [("TEMPLATE", .sequence [
      .sequence [.text "Person", .map [("GENSYM", .text "ada"), ("GENSYM_bob", .text "knows")]],
      .sequence [.text "Person", .map [("GENSYM", .text "bob"), ("GENSYM_ada", .text "knows")]]]),
    ("BIND", .map [("ada", .map [("FUNCTION", .text "Concatenate"),
      ("DATA", .map [("ColumnA", .text "name"), ("ColumnB", .text "town")])])])]

def neighboursTemplate : Template :=
  ⟨[⟨"Person", "ada", [⟨.type, []⟩, ⟨.symbol "bob", ["knows"]⟩]⟩,
      ⟨"Person", "bob", [⟨.type, []⟩, ⟨.symbol "ada", ["knows"]⟩]⟩], [],
    [⟨"ada", .concatenate "name" "town"⟩], {}⟩

/-- Whether the ghost is missed depends on whether there is a pet to fear it, and whether two
neighbours wait for each other on whether one of them is named. -/
theorem refused_if_entered_or_unbound :
    hauntedTemplate.IsLoaded ∧
    (∃ expansion, (expandRow recordSetting hauntedTemplate ⟨["pets"]⟩ [.text ""] {}).1 =
      .ok expansion) ∧
    (expandRow recordSetting hauntedTemplate ⟨["pets"]⟩ [.text "Rex"] {}).1 =
      .error (.unknownSymbol "ghost" "pet") ∧
    neighboursTemplate.IsLoaded ∧
    (∃ expansion, (expandRow globalSetting neighboursTemplate ⟨["name", "town"]⟩
      [.text "Ada", .text "Rome"] {}).1 = .ok expansion) ∧
    (expandRow globalSetting neighboursTemplate ⟨["name", "town"]⟩ [.text "", .text ""] {}).1 =
      .error (.cycle ["ada", "bob"]) :=
  ⟨⟨true, hauntedDocument, rfl⟩, ⟨_, rfl⟩, rfl, ⟨true, neighboursDocument, rfl⟩, ⟨_, rfl⟩, rfl⟩

end RowTriples
