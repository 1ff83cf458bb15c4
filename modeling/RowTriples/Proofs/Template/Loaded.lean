import RowTriples.Proofs.Pointwise
import RowTriples.Template.Load
/-!
# Loaded templates

Loading refuses a document whose entries do not declare a symbol or name a subtemplate that is not
there. So every template that comes from a document has, at every level, a class for each entity and
a template for each repetition. Everything else about the names of a template is left to the
expansion.
-/

namespace RowTriples

/-- What is looked up stands in the list. -/
theorem mem_of_lookup {α : Type} {entries : List (String × α)} {name : String} {value : α}
    (found : entries.lookup name = some value) : (name, value) ∈ entries := by
  obtain ⟨before, after, rfl, _⟩ := List.lookup_eq_some_iff.mp found
  simp

/-- What is not found stands under no name of the list. -/
theorem notMem_of_lookup {α : Type} {entries : List (String × α)} {name : String}
    (missing : entries.lookup name = none) : name ∉ entries.map Prod.fst := by
  intro listed
  obtain ⟨entry, member, rfl⟩ := List.mem_map.mp listed
  exact absurd (List.lookup_eq_none_iff.mp missing entry member) (by simp)

namespace Template

/-- The property holds of the template and of every template nested in it. -/
inductive Everywhere (property : Template → Prop) : Template → Prop where
  | intro {t : Template} (here : property t)
      (inside : ∀ part ∈ t.subtemplates, Everywhere property part.2.2) : Everywhere property t

/-- Every entry says its class, and every subtemplate that is repeated is there. -/
structure IsComplete (t : Template) : Prop where
  typed : ∀ entry ∈ t.entries, ∃ rule ∈ entry.rules, rule.target = .type
  found : ∀ entry ∈ t.entries, ∀ rule ∈ entry.rules, ∀ name symbol,
    rule.target = .repeated name symbol → ∃ part, t.subtemplates.lookup name = some part

/-- The template is what a document loads to. -/
def IsLoaded (t : Template) : Prop :=
  ∃ positional document, ofDocument positional document = .ok t

namespace Everywhere

variable {property property' : Template → Prop} {t : Template}

theorem here (h : Everywhere property t) : property t := by
  obtain ⟨here, _⟩ := h
  exact here

/-- A property that holds everywhere holds everywhere in the subtemplate under a name. -/
theorem of_lookup (h : Everywhere property t) {name : String} {iteration : Iteration}
    {inner : Template} (found : t.subtemplates.lookup name = some (iteration, inner)) :
    Everywhere property inner := by
  obtain ⟨_, inside⟩ := h
  exact inside (name, iteration, inner) (mem_of_lookup found)

end Everywhere

/-- Templates are nested finitely deep: what holds of a template whenever it holds of its
subtemplates holds of every template. -/
theorem nested {motive : Template → Prop}
    (step : ∀ t : Template, (∀ part ∈ t.subtemplates, motive part.2.2) → motive t)
    (t : Template) : motive t :=
  step t fun part _ => nested step part.2.2
termination_by sizeOf t
decreasing_by
  rename_i member
  have inside := List.sizeOf_lt_of_mem member
  obtain ⟨entries, subtemplates, bindings, options⟩ := t
  obtain ⟨name, iteration, inner⟩ := part
  simp only [Template.mk.sizeOf_spec, Prod.mk.sizeOf_spec] at inside ⊢
  omega

end Template

/-! ### Entries -/

namespace Entry

variable {type : String} {entry : Entry}

theorem type_of_property {key symbol : String} {value : Json} {rule : Rule}
    (declares : property type key value = .ok (some symbol, rule)) : rule.target = .type := by
  unfold property at declares
  split at declares
  · split at declares
    · cases declares
      rfl
    · cases declares
  · split at declares <;> cases declares

/-- The property that declares the symbol of an entry is its rule for the class. -/
theorem typed_of_ofProperties {properties : Entries Json}
    (loaded : ofProperties type properties = .ok entry) :
    ∃ rule ∈ entry.rules, rule.target = .type := by
  obtain ⟨declared, mapped, loaded⟩ := bind_eq_ok_iff.mp loaded
  split at loaded
  next symbol found =>
    cases loaded
    obtain ⟨⟨_, rule⟩, member, rfl⟩ := List.exists_of_findSome?_eq_some found
    obtain ⟨⟨key, value⟩, _, declares⟩ :=
      exists_of_mem_right (mapM_eq_ok_iff.mp mapped) member
    exact ⟨rule, List.mem_map_of_mem member, type_of_property declares⟩
  next => cases loaded

theorem mem_of_checkSubtemplates {names : List String}
    (checked : checkSubtemplates names entry = .ok ()) {rule : Rule} (member : rule ∈ entry.rules)
    {name symbol : String} (target : rule.target = .repeated name symbol) : name ∈ names := by
  have checked := forM_eq_ok_iff.mp checked rule member
  rw [target] at checked
  by_contra absent
  simp [absent] at checked

end Entry

namespace Template

/-- The template is what the outline loads to in some surroundings. -/
def LoadsFrom (t : Template) (outline : Outline) : Prop :=
  ∃ parent, ofOutlineIn parent outline = .ok t

/-- What loading settles about one level: every entry and every subtemplate comes from a
declaration, and the subtemplates that are repeated are there. -/
structure LevelLoads (t : Template) (outline : Outline) : Prop where
  entries : List.Forall₂ (fun declared entry =>
    Entry.ofProperties declared.1 declared.2 = .ok entry) outline.entries t.entries
  checked : ∀ entry ∈ t.entries, entry.checkSubtemplates (t.subtemplates.map Prod.fst) = .ok ()
  parts : List.Forall₂ (fun declared part => part.2.2.LoadsFrom declared.2) outline.subtemplates
    t.subtemplates

theorem forall₂_loadsFrom {options : Options} {outlines : List (String × Outline)}
    {parts : List (String × Iteration × Template)}
    (loaded : subtemplatesOf options outlines = .ok parts) :
    List.Forall₂ (fun declared part => part.2.2.LoadsFrom declared.2) outlines parts := by
  induction outlines generalizing parts with
  | nil =>
      cases loaded
      exact .nil
  | cons first outlines ih =>
      obtain ⟨name, outline⟩ := first
      rw [subtemplatesOf] at loaded
      split at loaded
      · cases loaded
      · obtain ⟨inner, first, loaded⟩ := bind_eq_ok_iff.mp loaded
        obtain ⟨others, rest, loaded⟩ := bind_eq_ok_iff.mp loaded
        cases loaded
        exact .cons ⟨options, first⟩ (ih rest)

theorem LoadsFrom.level {t : Template} {outline : Outline} (h : t.LoadsFrom outline) :
    t.LevelLoads outline := by
  obtain ⟨parent, loaded⟩ := h
  obtain ⟨entries, subtemplates, bindings, options, iterations⟩ := outline
  rw [ofOutlineIn] at loaded
  obtain ⟨bindings', _, loaded⟩ := bind_eq_ok_iff.mp loaded
  obtain ⟨parts, inner, loaded⟩ := bind_eq_ok_iff.mp loaded
  obtain ⟨entries', mapped, loaded⟩ := bind_eq_ok_iff.mp loaded
  obtain ⟨_, checked, loaded⟩ := bind_eq_ok_iff.mp loaded
  cases loaded
  exact ⟨mapM_eq_ok_iff.mp mapped, forM_eq_ok_iff.mp checked, forall₂_loadsFrom inner⟩

/-- By induction on the template: each of its levels is settled when it is loaded. -/
theorem LoadsFrom.complete {t : Template} {outline : Outline} (h : t.LoadsFrom outline) :
    t.Everywhere IsComplete := by
  induction t using nested generalizing outline with
  | step t inside =>
      have level := h.level
      refine .intro ⟨?_, ?_⟩ ?_
      · intro entry member
        obtain ⟨_, _, loaded⟩ := exists_of_mem_right level.entries member
        exact Entry.typed_of_ofProperties loaded
      · intro entry member rule ruleMember name symbol target
        have known := Entry.mem_of_checkSubtemplates (level.checked entry member) ruleMember target
        have found : (t.subtemplates.lookup name).isSome = true := by
          obtain ⟨part, partMember, rfl⟩ := List.mem_map.mp known
          simpa using ⟨_, _, partMember⟩
        exact Option.isSome_iff_exists.mp found
      · intro part member
        obtain ⟨_, _, loaded⟩ := exists_of_mem_right level.parts member
        exact inside part member loaded

theorem IsLoaded.exists_outline {t : Template} (h : t.IsLoaded) :
    ∃ positional document outline, Outline.ofDocument positional document = .ok outline ∧
      t.LoadsFrom outline := by
  obtain ⟨positional, document, loaded⟩ := h
  unfold ofDocument at loaded
  split at loaded
  next outline decoded => exact ⟨positional, document, outline, decoded, {}, loaded⟩
  next => cases loaded

/-- A loaded template is complete at every level. -/
theorem IsLoaded.complete {t : Template} (h : t.IsLoaded) : t.Everywhere IsComplete := by
  obtain ⟨_, _, _, _, loaded⟩ := h.exists_outline
  exact loaded.complete

end Template

end RowTriples
