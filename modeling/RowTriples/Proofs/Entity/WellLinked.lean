import RowTriples.Proofs.Entity.Instantiation
import RowTriples.Proofs.Template.Loaded
/-!
# Templates that always expand

Whether a row can be expanded at all is a matter of the names in the template. Loading checks those
of the subtemplates; the links are checked by what is said here. A template that loads and is well
linked expands for every row, whatever its columns hold, whatever the geocoder answers, and in every
mode.

The invariant is that a scope is entered with identifiers for all symbols of the scopes around it.
Further identifiers do no harm: the more symbols have one, the fewer entries are identified by
content.
-/

namespace RowTriples

namespace Template

/-- The links of a template lead to symbols of its own or of those around it, and do not go round in
a circle among its own. -/
structure LinksSoundly (around : List String) (t : Template) : Prop where
  links : ∀ entry ∈ t.entries, ∀ name ∈ entry.links, name ∈ t.symbols ∨ name ∈ around
  acyclic : ¬HasCycle fun entry =>
    t.entries.find? (·.symbol = entry.symbol) = some entry ∧ entry.symbol ∉ around
  repeated : ∀ entry ∈ t.entries, ∀ rule ∈ entry.rules, ∀ name symbol,
    rule.target = .repeated name symbol → ∀ part, t.subtemplates.lookup name = some part →
      symbol ∈ part.2.symbols ∨ symbol ∈ t.symbols ∨ symbol ∈ around

/-- The links are sound at every level. The symbols of a template are around its subtemplates. -/
inductive WellLinked : List String → Template → Prop where
  | intro {around : List String} {t : Template} (here : t.LinksSoundly around)
      (inside : ∀ part ∈ t.subtemplates, WellLinked (around ++ t.symbols) part.2.2) :
      WellLinked around t

end Template

section Expansion

open Expanding

variable {setting : Setting} {around : List String} {t : Template} {inherited : Identifiers}

/-- Where the symbols around have identifiers, sound links leave nothing that refuses the scope. -/
theorem Template.LinksSoundly.identifiable (h : t.LinksSoundly around) (row : Row)
    (known : ∀ name ∈ around, name ∈ Entries.names inherited) :
    ¬HasDanglingLink row t.entries inherited ∧
      ¬HasCycle (·.IsPending row t.entries inherited) := by
  constructor
  · rintro ⟨entry, pending, target, link, undeclared, new⟩
    rcases h.links entry pending.mem target link with declared | declared
    · exact undeclared (mem_declaredSymbols.mp declared)
    · exact new (known target declared)
  · intro cyclic
    refine h.acyclic (cyclic.mono fun entry pending => ⟨pending.first, fun declared => ?_⟩)
    exact pending.new (known entry.symbol declared)

/-- A well-linked template succeeds wherever the symbols around it have identifiers, and then has
identifiers for its own symbols as well. -/
theorem succeeds_of_wellLinked (linked : t.WellLinked around)
    (complete : t.Everywhere Template.IsComplete) {row : Row} {element : Option Nat}
    (known : ∀ name ∈ around, name ∈ Entries.names inherited) :
    Succeeds (template setting t row inherited element) fun result =>
      ∀ name, name ∈ Entries.names inherited ∨ name ∈ t.symbols →
        name ∈ Entries.names result.identifiers := by
  induction linked generalizing row inherited element with
  | @intro around t here inside ih =>
      obtain ⟨sound, acyclic⟩ := here.identifiable (row.derive t.bindings) known
      refine succeeds_template (fun _ => sound) (fun _ => acyclic) ?_
      intro ids identified entry member rule ruleMember
      have inScope : ∀ name, name ∈ t.symbols ∨ name ∈ around → name ∈ Entries.names ids := by
        intro name declared
        rw [identified.names]
        exact declared.symm.imp (known name) id
      apply succeeds_fact
      · intro name target
        exact inScope name (here.links entry member name
          (Entry.mem_links_iff.mpr ⟨rule, ruleMember, target⟩))
      · intro name symbol target
        obtain ⟨⟨iteration, inner⟩, found⟩ :=
          complete.here.found entry member rule ruleMember name symbol target
        refine ⟨iteration, template setting inner, by simp [lookup_subtemplatesOf, found], ?_⟩
        intro value i _ seed inner' seeds
        have part : (name, iteration, inner) ∈ t.subtemplates := mem_of_lookup found
        have entered : ∀ name ∈ around ++ t.symbols, name ∈ Entries.names seed := by
          intro name declared
          rw [seeds.names]
          exact .inl (inScope name (List.mem_append.mp declared).symm)
        refine (ih _ part (complete.of_lookup found) entered).mono fun result names => ?_
        apply names
        rcases here.repeated entry member rule ruleMember name symbol target _ found with
          own | outer
        · exact .inr own
        · exact .inl ((seeds.names symbol).mpr (.inl (inScope symbol outer)))

/-- A loaded template that is well linked expands for every row: with every header and every cell,
at every place of every output unit, in every mode, with every geocoder and after every expansion
before it. -/
theorem expandRow_of_wellLinked (setting : Setting) (t : Template) (header : Header)
    (cells : List Datum) (progress : Progress) (loaded : t.IsLoaded) (linked : t.WellLinked []) :
    ∃ expansion, (expandRow setting t header cells progress).1 = .ok expansion := by
  have succeeds : Succeeds (Expanding.row setting t header cells) fun _ => True :=
    (succeeds_of_wellLinked linked loaded.complete nofun).mono fun _ _ => trivial
  obtain ⟨result, progress', yields, _⟩ := succeeds progress
  refine ⟨result.expansion setting.language, ?_⟩
  unfold expandRow
  rw [yields]
  rfl

end Expansion

/-! ### Owners with their pets -/

/-- Every owner keeps pets, and every pet links back to its owner in the scope around it. -/
def kennelDocument : Document :=
  .map [("TEMPLATE", .sequence [.sequence [.text "Owner", .map [("GENSYM", .text "owner"),
      ("name", .text "name"), ("SUBTEMPLATE_pets.GENSYM_pet", .text "keeps")]]]),
    ("SUBTEMPLATES", .map [("pets", .map [
      ("TEMPLATE", .sequence [.sequence [.text "Pet", .map [("GENSYM", .text "pet"),
        ("GENSYM_owner", .text "keptBy")]]]),
      ("ITERABLE", .sequence [.sequence [.text "pets", .text "pet"]])])])]

def petTemplate : Template :=
  ⟨[⟨"Pet", "pet", [⟨.type, []⟩, ⟨.symbol "owner", ["keptBy"]⟩]⟩], [], [], {}⟩

def kennelTemplate : Template :=
  ⟨[⟨"Owner", "owner", [⟨.type, []⟩, ⟨.column "name", ["name"]⟩,
      ⟨.repeated "pets" "pet", ["keeps"]⟩]⟩], [("pets", ⟨"pets", "pet"⟩, petTemplate)], [], {}⟩

theorem petTemplate_linksSoundly : petTemplate.LinksSoundly ["owner"] := by
  refine ⟨by decide, ?_, by simp [petTemplate]⟩
  intro cyclic
  obtain ⟨entry, other, ⟨found, _⟩, ⟨_, new⟩, link⟩ := cyclic.exists_link
  obtain rfl : entry = ⟨"Pet", "pet", [⟨.type, []⟩, ⟨.symbol "owner", ["keptBy"]⟩]⟩ := by
    simpa [petTemplate] using List.mem_of_find?_eq_some found
  exact new link

theorem kennelTemplate_linksSoundly : kennelTemplate.LinksSoundly [] := by
  refine ⟨by decide, ?_, ?_⟩
  · intro cyclic
    obtain ⟨entry, other, ⟨found, _⟩, _, link⟩ := cyclic.exists_link
    have member := List.mem_of_find?_eq_some found
    simp only [kennelTemplate, List.mem_singleton] at member
    subst member
    cases link
  · intro entry member rule ruleMember name symbol target part found
    simp only [kennelTemplate, List.mem_singleton] at member
    subst member
    simp only [List.mem_cons, List.not_mem_nil, or_false] at ruleMember
    rcases ruleMember with rfl | rfl | rfl <;> cases target
    cases found
    exact .inl (by decide)

theorem expandRow_of_wellLinked_kennel :
    kennelTemplate.IsLoaded ∧ kennelTemplate.WellLinked [] ∧
    ∃ expansion, (expandRow globalSetting kennelTemplate ⟨["name", "pets"]⟩
      [.text "Ada", .list [.text "Rex", .text "Tom"]] {}).1 = .ok expansion := by
  have loaded : kennelTemplate.IsLoaded := ⟨true, kennelDocument, rfl⟩
  have linked : kennelTemplate.WellLinked [] := by
    refine .intro kennelTemplate_linksSoundly ?_
    simp only [kennelTemplate, List.mem_singleton, forall_eq]
    exact .intro petTemplate_linksSoundly nofun
  exact ⟨loaded, linked, expandRow_of_wellLinked globalSetting kennelTemplate _ _ {} loaded linked⟩

end RowTriples
