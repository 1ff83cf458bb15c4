import RowTriples.Proofs.Entity.Links
import RowTriples.Proofs.Identifier.Position
/-!
# The identifiers of instances

Where identifiers do not depend on content, a symbol gets one when it is first met on the way into
nested scopes: in the scope that declares it or, if a repetition links it, before the repetition is
entered. A site is where a chain of branches leads in a template for a row, and it remembers under
which circumstances the symbols on the way got theirs.

An instance is a symbol at a site that declares it, where no scope around declares it and no column
supplies it. Its identifier is the digest of a text in which one element number stands for the whole
chain, so the text tells instances apart by this number and by the symbol, and by nothing else.
-/

namespace RowTriples

/-- The circumstances under which a symbol gets an identifier. -/
structure Mint where
  options : Options
  row : Row
  element : Option Nat

def Mint.source (setting : Setting) (mint : Mint) (symbol : String) : IdSource :=
  IdSource.of mint.options mint.row ⟨setting.file, setting.row, mint.element⟩ symbol

/-- Where a chain of branches leads. -/
structure Site where
  template : Template
  /-- The row that the template is entered with. -/
  row : Row
  /-- The element that the template is repeated for. -/
  element : Option Nat
  /-- The symbols that the templates around declare. -/
  around : List String
  /-- The linked symbols that got identifiers on the way, the latest first. -/
  seeds : List (String × Mint)

namespace Site

variable (site : Site)

def root (t : Template) (row : Row) : Site :=
  ⟨t, row, none, [], []⟩

def derived : Row :=
  site.row.derive site.template.bindings

/-- The circumstances under which a symbol of the site has got its identifier. -/
def mint (symbol : String) : Mint :=
  (site.seeds.lookup symbol).getD ⟨site.template.options, site.derived, site.element⟩

def enter (i : Nat) (symbol : String) (iteration : Iteration) (inner : Template) (value : Datum) :
    Site :=
  let row := site.derived.bind iteration.variableName value .iteration
  { template := inner, row, element := some i, around := site.around ++ site.template.symbols,
    seeds := (symbol, ⟨site.template.options, row, some i⟩) :: site.seeds }

def branch? (branch : Branch) : Option Site := do
  let (symbol, iteration, inner) ← site.template.branch? branch
  let value ← (site.derived.values iteration.source)[branch.element]?
  return site.enter branch.element symbol iteration inner value

def follow? (site : Site) : List Branch → Option Site
  | [] => some site
  | branch :: chain => (site.branch? branch).bind (·.follow? chain)

end Site

/-- The element of the last branch of a chain which links the symbol. -/
def Template.lastLink? (t : Template) (symbol : String) : List Branch → Option Nat
  | [] => none
  | branch :: chain =>
    match t.branch? branch with
    | none => none
    | some (linked, _, inner) =>
      (inner.lastLink? symbol chain).or (if linked = symbol then some branch.element else none)

/-- A symbol at a site that declares it, where it gets an identifier of its own. -/
structure Instance (t : Template) (row : Row) where
  chain : List Branch
  symbol : String
  site : Site
  leads : (Site.root t row).follow? chain = some site
  declared : symbol ∈ site.template.symbols
  /-- No scope around declares the symbol. -/
  new : symbol ∉ site.around
  /-- No column supplied the identifier when the symbol got it. -/
  unsupplied : ∀ value, ¬(site.mint symbol).row.Supplies symbol value

namespace Instance

variable {t : Template} {row : Row} (i : Instance t row)

/-- The number of the element in the text of the identifier: that of the last branch of the chain
which links the symbol or, if there is none, of the last branch at all. -/
def element : Option Nat :=
  (t.lastLink? i.symbol i.chain).or (i.chain.getLast?.map Branch.element)

/-- The text whose digest is the identifier. -/
def content (setting : Setting) : String :=
  Position.content ⟨setting.file, setting.row, i.element⟩ i.symbol

/-- In the scope that the chain leads to, the symbol and every entity that is declared under it have
the identifier. -/
def HasIdentifier (result : Scope) (id : String) : Prop :=
  ∃ inner : Scope, result.follow? i.chain = some inner ∧
    Entries.get? i.symbol inner.identifiers = some id ∧
    ∀ (k : Nat) (entry : Entry), i.site.template.entries[k]? = some entry →
      entry.symbol = i.symbol → (inner.entities[k]?).map Entity.id = some id

end Instance

/-! ### Sites and scopes -/

open Expanding

/-- The scope is what the template of the site expands to, entered with identifiers for the symbols
around and for those linked on the way, which are from the sources that the site remembers. -/
structure Site.Holds (setting : Setting) (site : Site) (inherited : Identifiers) (result : Scope) :
    Prop where
  expands : Expands setting site.template site.row inherited site.element result
  names : ∀ name, name ∈ Entries.names inherited ↔
    name ∈ site.around ∨ name ∈ site.seeds.map Prod.fst
  seeded : ∀ name mint, site.seeds.lookup name = some mint →
    ∃ id, Entries.get? name inherited = some id ∧ (mint.source setting name).Gives setting.fresh id

namespace Site

variable {setting : Setting} {site next : Site} {inherited : Identifiers} {result : Scope}
variable {branch : Branch}

theorem branch?_eq_some_iff :
    site.branch? branch = some next ↔ ∃ symbol iteration inner value,
      site.template.branch? branch = some (symbol, iteration, inner) ∧
      (site.derived.values iteration.source)[branch.element]? = some value ∧
      next = site.enter branch.element symbol iteration inner value := by
  constructor
  · intro found
    obtain ⟨⟨symbol, iteration, inner⟩, part, found⟩ := Option.bind_eq_some_iff.mp found
    obtain ⟨value, valueAt, found⟩ := Option.bind_eq_some_iff.mp found
    exact ⟨symbol, iteration, inner, value, part, valueAt, (Option.some.inj found).symm⟩
  · rintro ⟨symbol, iteration, inner, value, part, valueAt, rfl⟩
    simp [branch?, part, valueAt]

/-- A scope that holds at a site has, behind every branch, a scope that holds at the next site. -/
theorem Holds.step (positional : setting.mode.isDeterministic = false)
    (h : site.Holds setting inherited result) (found : site.branch? branch = some next) :
    ∃ id repetition seed, result.branch? branch = some (id, repetition) ∧
      next.Holds setting seed repetition := by
  obtain ⟨symbol, iteration, inner, value, part, valueAt, rfl⟩ := branch?_eq_some_iff.mp found
  obtain ⟨⟨id, repetition⟩, occurrenceAt, linked, seed, seeds, entered⟩ :=
    h.expands.exists_branch? part valueAt
  refine ⟨id, repetition, seed, occurrenceAt, entered, fun name => ?_, fun name mint lookup => ?_⟩
  · have outer := h.expands.run.1.names name
    rw [h.names] at outer
    rw [seeds.names, outer]
    simp only [enter, positional, List.mem_append, List.map_cons, List.mem_cons, true_and]
    tauto
  · rcases seeds with ⟨deterministic, _⟩ | ⟨_, given, rfl, gives⟩
    · simp [positional] at deterministic
    · simp only [enter, List.lookup_cons] at lookup
      by_cases same : name = symbol
      · subst same
        simp only [beq_self_eq_true] at lookup
        cases lookup
        exact ⟨given, Entries.get?_put_self _ _ _, gives⟩
      · simp only [beq_eq_false_iff_ne.mpr same] at lookup
        rw [Entries.get?_put, if_neg (Ne.symm same)]
        obtain ⟨id, known, gives⟩ := h.seeded name mint lookup
        have member := Entries.mem_names_of_get? known
        exact ⟨id, (h.expands.run.1.kept member).trans known, gives⟩

/-- A scope that holds at a site has, behind every chain of branches, a scope that holds at the site
there. -/
theorem Holds.follow (positional : setting.mode.isDeterministic = false) {chain : List Branch}
    (h : site.Holds setting inherited result) (found : site.follow? chain = some next) :
    ∃ inner seed, result.follow? chain = some inner ∧ next.Holds setting seed inner := by
  induction chain generalizing site inherited result with
  | nil =>
      cases found
      exact ⟨result, inherited, rfl, h⟩
  | cons branch chain ih =>
      obtain ⟨middle, first, found⟩ := Option.bind_eq_some_iff.mp found
      obtain ⟨id, repetition, seed, occurrenceAt, holds⟩ := h.step positional first
      obtain ⟨inner, seed', reached, holds'⟩ := ih holds found
      refine ⟨inner, seed', ?_, holds'⟩
      simp [Scope.follow?, occurrenceAt, reached]

/-- A symbol of the site that is not declared around has the identifier that its source gives. -/
theorem Holds.gives (positional : setting.mode.isDeterministic = false)
    (h : site.Holds setting inherited result) {symbol : String}
    (declared : symbol ∈ site.template.symbols) (new : symbol ∉ site.around) :
    ∃ id, Entries.get? symbol result.identifiers = some id ∧
      ((site.mint symbol).source setting symbol).Gives setting.fresh id := by
  cases lookup : site.seeds.lookup symbol with
  | some mint =>
      obtain ⟨id, known, gives⟩ := h.seeded symbol mint lookup
      have member := Entries.mem_names_of_get? known
      refine ⟨id, (h.expands.run.1.kept member).trans known, ?_⟩
      simpa [Site.mint, lookup] using gives
  | none =>
      have fresh : symbol ∉ Entries.names inherited := by
        rw [h.names]
        exact not_or.mpr ⟨new, notMem_of_lookup lookup⟩
      obtain ⟨_, _, identified⟩ := h.expands.run.1
      obtain ⟨id, known, gives⟩ :=
        (yields_identify_positional positional identified).given symbol declared fresh
      refine ⟨id, known, ?_⟩
      simpa [Site.mint, lookup, Mint.source, derived] using gives

/-- The element for which a symbol got its identifier is that of the last link to the symbol; before
the first link on the way it is the element of the site. -/
theorem element_mint_of_follow? {chain : List Branch} {symbol : String}
    (found : site.follow? chain = some next) :
    (next.mint symbol).element = (site.template.lastLink? symbol chain).or
      (match site.seeds.lookup symbol with
        | some mint => mint.element
        | none => (chain.getLast?.map Branch.element).or site.element) := by
  induction chain generalizing site with
  | nil =>
      cases found
      cases lookup : next.seeds.lookup symbol <;> simp [Site.mint, Template.lastLink?, lookup]
  | cons branch chain ih =>
      obtain ⟨middle, first, found⟩ := Option.bind_eq_some_iff.mp found
      obtain ⟨linked, iteration, inner, value, part, _, rfl⟩ := branch?_eq_some_iff.mp first
      rw [ih found]
      simp only [Template.lastLink?, part, enter, List.lookup_cons]
      by_cases same : symbol = linked
      · simp [same]
      · simp only [beq_eq_false_iff_ne.mpr same, if_neg (Ne.symm same), Option.or_none]
        cases site.seeds.lookup symbol with
        | some mint => rfl
        | none => cases last : chain.getLast? <;> simp [List.getLast?_cons, last]

end Site

/-! ### Digests -/

/-- The identifiers of the template depend on positions and are digests. -/
def Template.Hashes (t : Template) : Prop :=
  t.options.hashedIds = true

/-- All identifiers that are given on the way to the site and beyond it are digests. -/
structure Site.Hashed (site : Site) : Prop where
  beyond : site.template.Everywhere Template.Hashes
  seeds : ∀ seed ∈ site.seeds, seed.2.options.hashedIds = true

namespace Site.Hashed

variable {site next : Site}

theorem root {t : Template} (h : t.Everywhere Template.Hashes) (row : Row) :
    (Site.root t row).Hashed :=
  ⟨h, nofun⟩

theorem follow (h : site.Hashed) {chain : List Branch} (found : site.follow? chain = some next) :
    next.Hashed := by
  induction chain generalizing site with
  | nil =>
      cases found
      exact h
  | cons branch chain ih =>
      obtain ⟨middle, first, found⟩ := Option.bind_eq_some_iff.mp found
      obtain ⟨symbol, iteration, inner, value, part, _, rfl⟩ := branch?_eq_some_iff.mp first
      refine ih ⟨h.beyond.of_branch? part, ?_⟩ found
      intro seed member
      rcases List.mem_cons.mp member with rfl | member
      · exact h.beyond.here
      · exact h.seeds seed member

theorem mint (h : site.Hashed) (symbol : String) : (site.mint symbol).options.hashedIds = true := by
  unfold Site.mint
  cases lookup : site.seeds.lookup symbol with
  | none => exact h.beyond.here
  | some mint => exact h.seeds _ (mem_of_lookup lookup)

end Site.Hashed

theorem Mint.source_eq_digest {setting : Setting} {mint : Mint} {symbol : String}
    (hashed : mint.options.hashedIds = true)
    (unsupplied : ∀ value, ¬mint.row.Supplies symbol value) :
    mint.source setting symbol =
      .digest (Position.content ⟨setting.file, setting.row, mint.element⟩ symbol) :=
  IdSource.of_eq_digest hashed unsupplied

section Instance

variable {setting : Setting} {t : Template} {row : Row} {result : Scope}

/-- The identifier of an instance is the digest of its text, and every entity of its symbol has that
identifier. -/
theorem Instance.identified (positional : setting.mode.isDeterministic = false)
    (hashed : t.Everywhere Template.Hashes) (expanded : Expands setting t row [] none result)
    (i : Instance t row) :
    i.HasIdentifier result (Digest.contentId (i.content setting)) := by
  have outermost : (Site.root t row).Holds setting [] result :=
    ⟨expanded, by simp [Site.root, Entries.names], nofun⟩
  obtain ⟨inner, seed, reached, holds⟩ := outermost.follow positional i.leads
  obtain ⟨id, known, gives⟩ := holds.gives positional i.declared i.new
  have element : (i.site.mint i.symbol).element = i.element := by
    rw [Site.element_mint_of_follow? i.leads]
    simp [Site.root, Instance.element]
  rw [Mint.source_eq_digest (((Site.Hashed.root hashed row).follow i.leads).mint i.symbol)
    i.unsupplied, element] at gives
  obtain rfl : id = Digest.contentId (i.content setting) := gives
  refine ⟨inner, reached, known, fun k entry entryAt same => ?_⟩
  obtain ⟨entity, entityAt, instantiates⟩ := exists_of_getElem?_left holds.expands.run.2 entryAt
  have entityId := instantiates.id
  rw [same, known] at entityId
  rw [entityAt, entityId]
  rfl

/-- How hashed identifiers tell the instances of a row apart, for every template all of whose scopes
hash them, and every row that expands. The identifier of an instance is the digest of its text. The
texts of two instances of one symbol agree exactly if the elements do, those for one element exactly
if the symbols do, and where the symbols do not begin with digits they agree exactly if both the
elements and the symbols do. The rest of the chains does not matter. -/
theorem hashed_identifiers (setting : Setting) (t : Template) (header : Header) (cells : List Datum)
    (progress : Progress) (expansion : Expansion) (mode : setting.mode = .none)
    (hashed : t.Everywhere Template.Hashes)
    (done : (expandRow setting t header cells progress).1 = .ok expansion) :
    ∃ result progress',
      (Expanding.row setting t header cells).run progress = (.ok result, progress') ∧
      expansion = result.expansion setting.language ∧
      (∀ i : Instance t { header, cells },
        i.HasIdentifier result (Digest.contentId (i.content setting))) ∧
      ∀ i j : Instance t { header, cells },
        (i.symbol = j.symbol → (i.content setting = j.content setting ↔ i.element = j.element)) ∧
        (i.element = j.element → (i.content setting = j.content setting ↔ i.symbol = j.symbol)) ∧
        (¬StartsWithDigit i.symbol → ¬StartsWithDigit j.symbol →
          (i.content setting = j.content setting ↔
            i.element = j.element ∧ i.symbol = j.symbol)) := by
  have positional : setting.mode.isDeterministic = false := by simp [mode, Mode.isDeterministic]
  obtain ⟨result, progress', yields, rfl⟩ := exists_scope_of_expandRow done
  refine ⟨result, progress', yields, rfl,
    Instance.identified positional hashed ⟨progress, progress', yields⟩, fun i j => ⟨?_, ?_, ?_⟩⟩
  · intro same
    unfold Instance.content
    rw [same]
    exact Position.content_eq_iff_of_symbol
  · intro same
    unfold Instance.content
    rw [same]
    exact Position.content_eq_iff_of_element
  · exact Position.content_eq_iff_of_not_startsWithDigit

end Instance

/-! ### Cats and dogs -/

/-- An owner who keeps cats and dogs. Both subtemplates call their entity a pet, and the identifiers
are digests at every level. -/
def menagerieDocument : Document :=
  .map [("TEMPLATE", .sequence [.sequence [.text "Owner", .map [("GENSYM", .text "owner"),
      ("SUBTEMPLATE_cats.GENSYM_pet", .text "keeps"),
      ("SUBTEMPLATE_dogs.GENSYM_pet", .text "keeps")]]]),
    ("SUBTEMPLATES", .map [
      ("cats", .map [
        ("TEMPLATE", .sequence [.sequence [.text "Cat", .map [("GENSYM", .text "pet")]]]),
        ("ITERABLE", .sequence [.sequence [.text "cats", .text "cat"]])]),
      ("dogs", .map [
        ("TEMPLATE", .sequence [.sequence [.text "Dog", .map [("GENSYM", .text "pet")]]]),
        ("ITERABLE", .sequence [.sequence [.text "dogs", .text "dog"]])])]),
    ("OPTIONS", .map [("HASHED_IDS", .bool true)])]

def animalTemplate (type : String) : Template :=
  ⟨[⟨type, "pet", [⟨.type, []⟩]⟩], [], [], ⟨true, false, defaultLookupClasses⟩⟩

def menagerieTemplate : Template :=
  ⟨[⟨"Owner", "owner", [⟨.type, []⟩, ⟨.repeated "cats" "pet", ["keeps"]⟩,
      ⟨.repeated "dogs" "pet", ["keeps"]⟩]⟩],
    [("cats", ⟨"cats", "cat"⟩, animalTemplate "Cat"),
      ("dogs", ⟨"dogs", "dog"⟩, animalTemplate "Dog")],
    [], ⟨true, false, defaultLookupClasses⟩⟩

theorem menagerieTemplate_hashes : menagerieTemplate.Everywhere Template.Hashes := by
  refine .intro rfl ?_
  simp only [menagerieTemplate, List.forall_mem_cons, List.not_mem_nil, false_imp_iff, implies_true,
    and_true]
  exact ⟨.intro rfl nofun, .intro rfl nofun⟩

theorem hashed_identifiers_menagerie :
    recordSetting.mode = .none ∧ menagerieTemplate.Everywhere Template.Hashes ∧
    ∃ expansion, (expandRow recordSetting menagerieTemplate ⟨["cats", "dogs"]⟩
        [.list [.text "Tom", .text "Kit"], .text "Rex"] {}).1 = .ok expansion ∧
      ∃ result, expansion = Scope.expansion recordSetting.language result ∧
        ∀ i : Instance menagerieTemplate
            ⟨⟨["cats", "dogs"]⟩, [.list [.text "Tom", .text "Kit"], .text "Rex"], []⟩,
          i.HasIdentifier result (Digest.contentId (i.content recordSetting)) := by
  have done : ∃ expansion, (expandRow recordSetting menagerieTemplate ⟨["cats", "dogs"]⟩
      [.list [.text "Tom", .text "Kit"], .text "Rex"] {}).1 = .ok expansion := ⟨_, rfl⟩
  obtain ⟨expansion, done⟩ := done
  obtain ⟨result, _, _, same, identified, _⟩ := hashed_identifiers recordSetting menagerieTemplate
    _ _ {} expansion rfl menagerieTemplate_hashes done
  exact ⟨rfl, menagerieTemplate_hashes, expansion, done, result, same, identified⟩

/-- The first cat and the first dog are different instances, and they share their text. -/
theorem shared_content_menagerie :
    menagerieTemplate.IsLoaded ∧ menagerieTemplate.Everywhere Template.Hashes ∧
    (∃ expansion, (expandRow recordSetting menagerieTemplate ⟨["cats", "dogs"]⟩
      [.text "Tom", .text "Rex"] {}).1 = .ok expansion) ∧
    ∃ i j : Instance menagerieTemplate ⟨⟨["cats", "dogs"]⟩, [.text "Tom", .text "Rex"], []⟩,
      i.chain ≠ j.chain ∧ i.content recordSetting = j.content recordSetting := by
  refine ⟨⟨true, menagerieDocument, rfl⟩, menagerieTemplate_hashes, ⟨_, rfl⟩,
    ⟨[⟨0, 1, 0⟩], "pet", _, rfl, ?_, ?_, ?_⟩, ⟨[⟨0, 2, 0⟩], "pet", _, rfl, ?_, ?_, ?_⟩, ?_, rfl⟩
  · decide
  · decide
  · exact fun _ supplied => nomatch supplied.1
  · decide
  · decide
  · exact fun _ supplied => nomatch supplied.1
  · decide

end RowTriples
