import RowTriples.Proofs.Entity.Typings
/-!
# The scopes of a row, told from the template

Which scopes a row has can be told from the template and the columns, before anything is identified:
the scope itself, and for every rule that repeats a subtemplate the scopes of each repetition. They
are listed here as sites, in the order in which the scopes of the expanded row are listed, so that
what is summed up over the scopes of a row can be counted in the template.
-/

namespace RowTriples

open Expanding

theorem Template.sizeOf_lt_of_lookup {t inner : Template} {name : String} {iteration : Iteration}
    (found : t.subtemplates.lookup name = some (iteration, inner)) : sizeOf inner < sizeOf t := by
  have inside := List.sizeOf_lt_of_mem (mem_of_lookup found)
  obtain ⟨entries, subtemplates, bindings, options⟩ := t
  simp only [Template.mk.sizeOf_spec, Prod.mk.sizeOf_spec] at inside ⊢
  omega

namespace Site

variable {setting : Setting} {site next : Site} {inherited : Identifiers} {result : Scope}

def repetitions (site : Site) (rule : Rule) : List Site :=
  match rule.target with
  | .repeated name symbol =>
    match site.template.subtemplates.lookup name with
    | none => []
    | some (iteration, inner) =>
      (site.derived.values iteration.source).zipIdx.map fun (value, i) =>
        site.enter i symbol iteration inner value
  | _ => []

def inner (site : Site) : List Site :=
  (site.template.entries.flatMap Entry.rules).flatMap site.repetitions

theorem repetitions_eq {name symbol : String} {predicates : List String} {iteration : Iteration}
    {inner : Template} (part : site.template.subtemplates.lookup name = some (iteration, inner)) :
    site.repetitions ⟨.repeated name symbol, predicates⟩ =
      (site.derived.values iteration.source).zipIdx.map fun element =>
        site.enter element.2 symbol iteration inner element.1 := by
  simp only [repetitions, part]

theorem getElem?_repetitions {rule : Rule} {i : Nat} :
    (site.repetitions rule)[i]? = some next ↔ ∃ name symbol iteration inner value,
      rule.target = .repeated name symbol ∧
      site.template.subtemplates.lookup name = some (iteration, inner) ∧
      (site.derived.values iteration.source)[i]? = some value ∧
      next = site.enter i symbol iteration inner value := by
  constructor
  · intro found
    unfold repetitions at found
    split at found
    next name symbol target =>
      split at found
      · cases found
      next iteration inner part =>
        rw [List.getElem?_map, List.getElem?_zipIdx] at found
        obtain ⟨_, numbered, rfl⟩ := Option.map_eq_some_iff.mp found
        obtain ⟨value, valueAt, rfl⟩ := Option.map_eq_some_iff.mp numbered
        exact ⟨name, symbol, iteration, inner, value, target, part, valueAt, by rw [Nat.zero_add]⟩
    next => cases found
  · rintro ⟨name, symbol, iteration, inner, value, target, part, valueAt, rfl⟩
    simp [repetitions, target, part, valueAt]

/-- A branch leads into a repetition of a rule. -/
theorem branch?_iff_repetitions {branch : Branch} :
    site.branch? branch = some next ↔ ∃ entry rule,
      site.template.entries[branch.entry]? = some entry ∧
      entry.rules[branch.rule]? = some rule ∧
      (site.repetitions rule)[branch.element]? = some next := by
  simp only [branch?_eq_some_iff, Template.branch?_eq_some_iff, getElem?_repetitions]
  constructor
  · rintro ⟨symbol, iteration, inner, value, ⟨entry, name, predicates, entryAt, ruleAt, part⟩,
      valueAt, rfl⟩
    exact ⟨entry, _, entryAt, ruleAt, name, symbol, iteration, inner, value, rfl, part, valueAt,
      rfl⟩
  · rintro ⟨entry, ⟨target, predicates⟩, entryAt, ruleAt, name, symbol, iteration, inner, value,
      rfl, part, valueAt, rfl⟩
    exact ⟨symbol, iteration, inner, value, ⟨entry, name, predicates, entryAt, ruleAt, part⟩,
      valueAt, rfl⟩

/-- The sites inside repetitions are those that branches lead into. -/
theorem mem_inner_iff : next ∈ site.inner ↔ ∃ branch, site.branch? branch = some next := by
  simp only [inner, List.mem_flatMap, branch?_iff_repetitions]
  simp only [List.mem_iff_getElem?]
  constructor
  · rintro ⟨rule, ⟨entry, ⟨j, entryAt⟩, k, ruleAt⟩, i, found⟩
    exact ⟨⟨j, k, i⟩, entry, rule, entryAt, ruleAt, found⟩
  · rintro ⟨branch, entry, rule, entryAt, ruleAt, found⟩
    exact ⟨rule, ⟨entry, ⟨_, entryAt⟩, _, ruleAt⟩, _, found⟩

theorem sizeOf_lt_of_mem_inner (member : next ∈ site.inner) :
    sizeOf next.template < sizeOf site.template := by
  obtain ⟨branch, step⟩ := mem_inner_iff.mp member
  obtain ⟨symbol, iteration, part, value, found, _, rfl⟩ := branch?_eq_some_iff.mp step
  obtain ⟨_, _, _, _, _, partAt⟩ := Template.branch?_eq_some_iff.mp found
  exact Template.sizeOf_lt_of_lookup partAt

/-- The sites of a row: the site itself, and then those of each of its repetitions. -/
def sites (site : Site) : List Site :=
  site :: site.inner.attach.flatMap fun next => sites next.1
termination_by sizeOf site.template
decreasing_by exact sizeOf_lt_of_mem_inner next.2

theorem sites_eq (site : Site) : site.sites = site :: site.inner.flatMap sites := by
  have each (next : Site) (_ : next ∈ site.inner) : next.sites = next.sites := rfl
  rw [sites, List.flatMap_subtype each, List.unattach_attach]

/-- The sites of a row are those that chains of branches lead to. -/
theorem mem_sites_iff {site next : Site} :
    next ∈ site.sites ↔ ∃ chain, site.follow? chain = some next := by
  constructor
  · intro member
    rw [sites_eq, List.mem_cons, List.mem_flatMap] at member
    rcases member with rfl | ⟨middle, listed, member⟩
    · exact ⟨[], rfl⟩
    · obtain ⟨branch, step⟩ := mem_inner_iff.mp listed
      obtain ⟨chain, found⟩ := mem_sites_iff.mp member
      exact ⟨branch :: chain, Option.bind_eq_some_iff.mpr ⟨middle, step, found⟩⟩
  · rintro ⟨chain, found⟩
    induction chain generalizing site with
    | nil =>
        cases found
        rw [sites_eq]
        exact List.mem_cons_self
    | cons branch chain ih =>
        obtain ⟨middle, step, found⟩ := Option.bind_eq_some_iff.mp found
        rw [sites_eq, List.mem_cons, List.mem_flatMap]
        exact .inr ⟨middle, mem_inner_iff.mpr ⟨branch, step⟩, ih found⟩
termination_by sizeOf site.template
decreasing_by exact sizeOf_lt_of_mem_inner listed

/-- The repetitions of a scope are, in their order, those of the site that it matches. -/
theorem Matches.inner (h : site.Matches setting inherited result) :
    List.Forall₂ (fun next (occurrence : String × Scope) =>
      ∃ seed, next.Matches setting seed occurrence.2) site.inner result.occurrences := by
  refine List.rel_flatMap h.expands.facts fun rule fact becomes => ?_
  obtain ⟨target, predicates⟩ := rule
  cases target with
  | repeated name symbol =>
      obtain ⟨iteration, part, occurrences, found, rfl, repeats⟩ := becomes.of_rule
      rw [repetitions_eq found, List.forall₂_map_left_iff]
      refine repeats.imp fun element occurrence repeats => ?_
      obtain ⟨seed, matched, _⟩ := h.enter repeats
      exact ⟨seed, matched⟩
  | type =>
      cases becomes
      exact .nil
  | column name =>
      cases becomes
      exact .nil
  | symbol name =>
      cases becomes
      exact .nil

/-- The scopes of a row match its sites one by one. -/
theorem Matches.sites {site : Site} {inherited : Identifiers} {result : Scope}
    (h : site.Matches setting inherited result) :
    List.Forall₂ (fun next scope => ∃ seed, next.Matches setting seed scope) site.sites
      result.scopes := by
  rw [Site.sites_eq, Scope.scopes_eq]
  have inside := (List.forall₂_and_left _ _).mpr ⟨fun _ member => member, h.inner⟩
  refine .cons ⟨inherited, h⟩ (List.rel_flatMap inside ?_)
  rintro next occurrence ⟨member, seed, matched⟩
  exact matched.sites
termination_by sizeOf site.template
decreasing_by exact sizeOf_lt_of_mem_inner member

end Site

end RowTriples
