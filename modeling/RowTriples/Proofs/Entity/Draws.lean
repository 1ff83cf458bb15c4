import Mathlib.Data.List.Nodup
import RowTriples.Proofs.Entity.Census
/-!
# The random identifiers of a row

Where identifiers do not depend on content, which symbols get random ones can be told from the
template and the columns: in each scope those that it declares, unless a scope around or a link on
the way has given them an identifier, and on entering a repetition the symbol that it is linked by.
They are listed here as draws, in the order in which the identifiers are taken from the supply. No
draw is listed twice, so no two of them share a number.
-/

namespace RowTriples

open Expanding

/-! ### Numbered draws -/

/-- As many identifiers were taken as there are draws, and each draw got the one whose turn it
was. -/
structure Dealt {δ : Type} (gets : δ → Nat → Prop) (draws : List δ) (first last : Nat) : Prop where
  count : last = first + draws.length
  gets : ∀ draw number, (draw, number) ∈ draws.zipIdx first → gets draw number

namespace Dealt

variable {δ δ' : Type} {gets gets' : δ → Nat → Prop} {draws draws' : List δ}
variable {first middle last : Nat}

theorem nil : Dealt gets [] first first :=
  ⟨rfl, nofun⟩

theorem mono (h : Dealt gets draws first last)
    (imp : ∀ draw ∈ draws, ∀ number, gets draw number → gets' draw number) :
    Dealt gets' draws first last :=
  ⟨h.count, fun draw number member => imp draw (List.fst_mem_of_mem_zipIdx member) number
    (h.gets draw number member)⟩

theorem append (h : Dealt gets draws first middle) (h' : Dealt gets draws' middle last) :
    Dealt gets (draws ++ draws') first last := by
  refine ⟨?_, fun draw number member => ?_⟩
  · rw [h'.count, h.count, List.length_append, Nat.add_assoc]
  · rw [List.zipIdx_append, List.mem_append, ← h.count] at member
    exact member.elim (h.gets draw number) (h'.gets draw number)

theorem map {f : δ → δ'} {gets : δ' → Nat → Prop}
    (h : Dealt (fun draw => gets (f draw)) draws first last) :
    Dealt gets (draws.map f) first last := by
  refine ⟨by rw [List.length_map, h.count], fun draw number member => ?_⟩
  rw [List.zipIdx_map] at member
  obtain ⟨⟨before, _⟩, numbered, same⟩ := List.mem_map.mp member
  cases same
  exact h.gets before _ numbered

/-- What an execution deals out for each element, it deals out for the list. -/
theorem of_threaded {α β : Type} {executes : α → β → Progress → Progress → Prop} {xs : List α}
    {ys : List β} {progress progress' : Progress} {gets : β → Nat → δ → Nat → Prop}
    {draws : α → Nat → List δ} {i : Nat} (h : Threaded executes xs ys progress progress')
    (each : ∀ x y k progress progress', (x, k) ∈ xs.zipIdx i → executes x y progress progress' →
      Dealt (gets y k) (draws x k) progress.minted progress'.minted) :
    Dealt (fun draw number => ∃ y k, (y, k) ∈ ys.zipIdx i ∧ gets y k draw number)
      ((xs.zipIdx i).flatMap fun (x, k) => draws x k) progress.minted progress'.minted := by
  induction h generalizing i with
  | nil => exact .nil
  | @cons x y xs ys _ _ _ head tail ih =>
      rw [List.zipIdx_cons] at each ⊢
      have here := each x y i _ _ List.mem_cons_self head
      have rest := ih fun x y k p q numbered => each x y k p q (List.mem_cons_of_mem _ numbered)
      refine (here.mono ?_).append (rest.mono ?_)
      · intro draw _ number got
        exact ⟨y, i, List.mem_cons_self, got⟩
      · rintro draw _ number ⟨y', k, numbered, got⟩
        exact ⟨y', k, List.mem_cons_of_mem _ numbered, got⟩

end Dealt

/-! ### The draws of a site -/

namespace Mint

/-- Under these circumstances a symbol gets a random identifier: no column supplies one, and the
options do not ask for a digest. -/
def isRandom (mint : Mint) (symbol : String) : Bool :=
  (mint.row.boundId? symbol).isNone && !mint.options.hashedIds

end Mint

/-- What stands behind a branch, seen from before it. -/
def Branch.before (branch : Branch) (draw : List Branch × String) : List Branch × String :=
  (branch :: draw.1, draw.2)

namespace Site

variable (site : Site)

/-- The circumstances under which the site identifies the symbols that it declares. -/
def ownMint : Mint :=
  ⟨site.template.options, site.derived, site.element⟩

def ownSymbols : List String :=
  site.template.symbols.filter fun symbol =>
    symbol ∉ site.around ∧ symbol ∉ site.seeds.map Prod.fst

/-- The symbol that gets a random identifier before the site is entered, if there is one. -/
def linkDraws : List String :=
  match site.seeds with
  | [] => []
  | (symbol, mint) :: _ => [symbol].filter mint.isRandom

/-- The symbols that get random identifiers from the site itself. -/
def ownDraws : List String :=
  site.ownSymbols.filter site.ownMint.isRandom

/-- The branches of a site, in order, each with the site that it leads into. -/
def branches : List (Branch × Site) :=
  site.template.entries.zipIdx.flatMap fun (entry, j) =>
    entry.rules.zipIdx.flatMap fun (rule, k) =>
      (site.repetitions rule).zipIdx.map fun (next, i) => (⟨j, k, i⟩, next)

variable {site} {branch : Branch} {next : Site}

theorem mem_branches_iff : (branch, next) ∈ site.branches ↔ site.branch? branch = some next := by
  obtain ⟨j, k, i⟩ := branch
  simp only [branches, List.mem_flatMap, List.mem_map, Prod.exists, List.mk_mem_zipIdx_iff_getElem?,
    branch?_iff_repetitions, Prod.mk.injEq, Branch.mk.injEq]
  constructor
  · rintro ⟨entry, _, entryAt, rule, _, ruleAt, _, _, found, ⟨rfl, rfl, rfl⟩, rfl⟩
    exact ⟨entry, rule, entryAt, ruleAt, found⟩
  · rintro ⟨entry, rule, entryAt, ruleAt, found⟩
    exact ⟨entry, j, entryAt, rule, k, ruleAt, next, i, found, ⟨rfl, rfl, rfl⟩, rfl⟩

theorem sizeOf_lt_of_mem_branches (member : (branch, next) ∈ site.branches) :
    sizeOf next.template < sizeOf site.template :=
  sizeOf_lt_of_mem_inner (mem_inner_iff.mpr ⟨branch, mem_branches_iff.mp member⟩)

/-- The symbols that get random identifiers in a row, each at the place where it gets it. They are
listed in the order of the expansion: those of the site itself, and then, for each of its branches,
that of the link and those from inside. -/
def draws (site : Site) : List (List Branch × String) :=
  site.ownDraws.map ([], ·) ++ site.branches.attach.flatMap fun step =>
    (step.1.2.linkDraws.map ([], ·) ++ draws step.1.2).map step.1.1.before
termination_by sizeOf site.template
decreasing_by exact sizeOf_lt_of_mem_branches step.2

def drawsBehind (branch : Branch) (next : Site) : List (List Branch × String) :=
  (next.linkDraws.map ([], ·) ++ next.draws).map branch.before

theorem draws_eq (site : Site) : site.draws =
    site.ownDraws.map ([], ·) ++ site.branches.flatMap fun step => drawsBehind step.1 step.2 := by
  have each (step : Branch × Site) (_ : step ∈ site.branches) :
      (step.2.linkDraws.map ([], ·) ++ step.2.draws).map step.1.before =
        drawsBehind step.1 step.2 := rfl
  rw [draws, List.flatMap_subtype each, List.unattach_attach]

/-! ### No draw is listed twice -/

theorem pairwise_zipIdx {α : Type} (xs : List α) (i : Nat) :
    (xs.zipIdx i).Pairwise fun a b => a.2 ≠ b.2 := by
  induction xs generalizing i with
  | nil => exact .nil
  | cons x xs ih =>
      rw [List.zipIdx_cons]
      refine .cons (fun later member => ?_) (ih (i + 1))
      have := List.le_snd_of_mem_zipIdx member
      exact Nat.ne_of_lt this

theorem pairwise_branches (site : Site) : site.branches.Pairwise fun a b => a.1 ≠ b.1 := by
  simp only [branches, List.pairwise_flatMap, List.pairwise_map, List.mem_flatMap, List.mem_map]
  refine ⟨fun entry _ => ⟨fun rule _ => ?_, ?_⟩, ?_⟩
  · refine (pairwise_zipIdx _ 0).imp fun different same => ?_
    exact different (congrArg Branch.element same)
  · refine (pairwise_zipIdx _ 0).imp ?_
    rintro _ _ different _ ⟨_, _, rfl⟩ _ ⟨_, _, rfl⟩ same
    exact different (congrArg Branch.rule same)
  · refine (pairwise_zipIdx _ 0).imp ?_
    rintro _ _ different _ ⟨_, _, _, _, rfl⟩ _ ⟨_, _, _, _, rfl⟩ same
    exact different (congrArg Branch.entry same)

end Site

/-- A symbol that several entries declare is listed once. -/
theorem nodup_declaredSymbols (entries : List Entry) : (declaredSymbols entries).Nodup := by
  suffices each : ∀ seen : List String, seen.Nodup → (entries.foldl (fun seen entry =>
      if seen.contains entry.symbol then seen else seen ++ [entry.symbol]) seen).Nodup from
    each [] List.nodup_nil
  induction entries with
  | nil => exact fun _ nodup => nodup
  | cons entry entries ih =>
      intro seen nodup
      rw [List.foldl_cons]
      apply ih
      split
      next => exact nodup
      next new =>
        have new : entry.symbol ∉ seen := by simpa using new
        rw [← List.concat_eq_append]
        exact nodup.concat new

namespace Site

variable {site : Site}

theorem mem_ownDraws_iff {symbol : String} : symbol ∈ site.ownDraws ↔
    symbol ∈ site.template.symbols ∧ symbol ∉ site.around ∧ symbol ∉ site.seeds.map Prod.fst ∧
      site.ownMint.isRandom symbol = true := by
  simp only [ownDraws, ownSymbols, List.mem_filter, decide_eq_true_eq, and_assoc]

theorem mem_linkDraws_iff {symbol : String} : symbol ∈ site.linkDraws ↔
    ∃ mint seeds, site.seeds = (symbol, mint) :: seeds ∧ mint.isRandom symbol = true := by
  unfold linkDraws
  split
  next none => simp [none]
  next linked mint seeds some =>
    simp only [some, List.mem_filter, List.mem_singleton, List.cons.injEq, Prod.mk.injEq]
    constructor
    · rintro ⟨rfl, random⟩
      exact ⟨mint, seeds, ⟨⟨rfl, rfl⟩, rfl⟩, random⟩
    · rintro ⟨_, _, ⟨⟨rfl, rfl⟩, rfl⟩, random⟩
      exact ⟨rfl, random⟩

/-- No symbol gets a random identifier twice on entering a site and in it. -/
theorem nodup_entered (site : Site) : (site.linkDraws ++ site.ownDraws).Nodup := by
  refine List.nodup_append.mpr ⟨?_, ?_, ?_⟩
  · unfold linkDraws
    split
    · exact List.nodup_nil
    · exact (List.nodup_singleton _).filter _
  · exact ((nodup_declaredSymbols _).filter _).filter _
  · rintro symbol linked _ own rfl
    obtain ⟨mint, seeds, same, _⟩ := mem_linkDraws_iff.mp linked
    obtain ⟨_, _, new, _⟩ := mem_ownDraws_iff.mp own
    exact new (by simp [same])

theorem mem_drawsBehind_iff {branch : Branch} {next : Site} {draw : List Branch × String} :
    draw ∈ drawsBehind branch next ↔ ∃ place, draw.1 = branch :: place ∧
      ((place = [] ∧ draw.2 ∈ next.linkDraws) ∨ (place, draw.2) ∈ next.draws) := by
  obtain ⟨chain, symbol⟩ := draw
  simp only [drawsBehind, Branch.before, List.mem_map, List.mem_append, Prod.mk.injEq, Prod.exists]
  constructor
  · rintro ⟨place, _, ⟨_, link, rfl, rfl⟩ | inside, rfl, rfl⟩
    · exact ⟨[], rfl, .inl ⟨rfl, link⟩⟩
    · exact ⟨place, rfl, .inr inside⟩
  · rintro ⟨place, rfl, ⟨rfl, link⟩ | inside⟩
    · exact ⟨[], symbol, .inl ⟨symbol, link, rfl, rfl⟩, rfl, rfl⟩
    · exact ⟨place, symbol, .inr inside, rfl, rfl⟩

/-- The draws of a site at its own place are its own. -/
theorem mem_draws_nil_iff {symbol : String} :
    ([], symbol) ∈ site.draws ↔ symbol ∈ site.ownDraws := by
  rw [draws_eq]
  simp [mem_drawsBehind_iff]

/-- The draws behind a branch are those of the site there, and that of the link. -/
theorem mem_draws_cons_iff {branch : Branch} {place : List Branch} {symbol : String} :
    (branch :: place, symbol) ∈ site.draws ↔ ∃ next, site.branch? branch = some next ∧
      ((place = [] ∧ symbol ∈ next.linkDraws) ∨ (place, symbol) ∈ next.draws) := by
  rw [draws_eq]
  simp only [List.mem_append, List.mem_map, Prod.mk.injEq, List.mem_flatMap, mem_drawsBehind_iff,
    Prod.exists, mem_branches_iff, List.cons.injEq]
  constructor
  · rintro (⟨_, _, none, _⟩ | ⟨_, next, step, _, ⟨rfl, rfl⟩, inside⟩)
    · cases none
    · exact ⟨next, step, inside⟩
  · rintro ⟨next, step, inside⟩
    exact .inr ⟨branch, next, step, place, ⟨rfl, rfl⟩, inside⟩

/-- No draw of a site is listed twice. -/
theorem nodup_draws (site : Site) : site.draws.Nodup := by
  have behind :
      ∀ branch next, (branch, next) ∈ site.branches → (drawsBehind branch next).Nodup := by
    intro branch next member
    refine List.Nodup.map ?_ (List.nodup_append.mpr ⟨?_, nodup_draws next, ?_⟩)
    · rintro ⟨_, _⟩ ⟨_, _⟩ same
      cases same
      rfl
    · exact (List.nodup_append.mp next.nodup_entered).1.map fun _ _ same => congrArg Prod.snd same
    · rintro _ link draw inside rfl
      obtain ⟨symbol, linked, rfl⟩ := List.mem_map.mp link
      exact (List.nodup_append.mp next.nodup_entered).2.2 symbol linked symbol
        (mem_draws_nil_iff.mp inside) rfl
  rw [draws_eq]
  refine List.nodup_append.mpr ⟨?_, ?_, ?_⟩
  · exact (List.nodup_append.mp site.nodup_entered).2.1.map fun _ _ same => congrArg Prod.snd same
  · refine List.pairwise_flatMap.mpr ⟨fun step member => behind step.1 step.2 member, ?_⟩
    refine site.pairwise_branches.imp fun different draw member draw' member' same => ?_
    obtain ⟨_, first, _⟩ := mem_drawsBehind_iff.mp member
    obtain ⟨_, second, _⟩ := mem_drawsBehind_iff.mp member'
    rw [same, second] at first
    exact different (List.cons.inj first).1.symm
  · rintro _ own draw inside rfl
    obtain ⟨symbol, _, rfl⟩ := List.mem_map.mp own
    obtain ⟨step, _, behind⟩ := List.mem_flatMap.mp inside
    obtain ⟨_, none, _⟩ := mem_drawsBehind_iff.mp behind
    cases none
termination_by sizeOf site.template
decreasing_by exact sizeOf_lt_of_mem_branches member

end Site

/-! ### The draws of an execution -/

section Execution

variable {setting : Setting} {options : Options} {row : Row} {element : Option Nat}
variable {progress progress' : Progress}

theorem dealt_positionalId {symbol id : String}
    (yields : Yields (positionalId setting options row element symbol) progress id progress') :
    Dealt (fun _ number => id = setting.fresh number)
      ([symbol].filter (Mint.isRandom ⟨options, row, element⟩)) progress.minted
      progress'.minted := by
  unfold positionalId IdSource.of at yields
  cases bound : row.boundId? symbol with
  | some supplied =>
      simp only [bound] at yields
      obtain ⟨_, rfl⟩ := yields_pure.mp yields
      simpa [Mint.isRandom, bound] using Dealt.nil
  | none =>
      cases hashed : options.hashedIds with
      | true =>
          simp only [bound, hashed, if_true] at yields
          obtain ⟨_, rfl⟩ := yields_pure.mp yields
          simpa [Mint.isRandom, bound, hashed] using Dealt.nil
      | false =>
          simp only [bound, hashed, Bool.false_eq_true, if_false] at yields
          obtain ⟨rfl, rfl⟩ := yields_mint.mp yields
          have drawn : [symbol].filter (Mint.isRandom ⟨options, row, element⟩) = [symbol] := by
            simp [Mint.isRandom, bound, hashed]
          rw [drawn]
          refine ⟨rfl, fun _ number member => ?_⟩
          cases List.mem_singleton.mp member
          rfl

theorem dealt_positionalIds {symbols : List String} {inherited ids : Identifiers}
    (nodup : symbols.Nodup)
    (yields : Yields (positionalIds setting options row element symbols inherited) progress ids
      progress') :
    Dealt (fun symbol number => Entries.get? symbol ids = some (setting.fresh number))
      ((symbols.filter fun symbol => symbol ∉ Entries.names inherited).filter
        (Mint.isRandom ⟨options, row, element⟩)) progress.minted progress'.minted := by
  induction symbols generalizing inherited progress with
  | nil =>
      obtain ⟨_, rfl⟩ := yields_pure.mp yields
      exact .nil
  | cons symbol symbols ih =>
      obtain ⟨absent, nodup⟩ := List.nodup_cons.mp nodup
      unfold positionalIds at yields
      split at yields
      next known =>
        have known := Entries.has_iff.mp known
        rw [List.filter_cons_of_neg (by simpa using known)]
        exact ih nodup yields
      next unknown =>
        have unknown : symbol ∉ Entries.names inherited := fun known =>
          unknown (Entries.has_iff.mpr known)
        obtain ⟨id, _, identified, yields⟩ := yields_bind.mp yields
        have names : Entries.names (Entries.put symbol id inherited) =
            Entries.names inherited ++ [symbol] := by
          rw [Entries.names_put, if_neg unknown]
        have later : symbols.filter (fun other => other ∉ Entries.names inherited) =
            symbols.filter fun other =>
              other ∉ Entries.names (Entries.put symbol id inherited) := by
          refine List.filter_congr fun other member => ?_
          have different : other ≠ symbol := fun same => absent (same ▸ member)
          simp [names, different]
        have given : Entries.get? symbol ids = some id := by
          rw [(yields_positionalIds yields).kept symbol (by simp [names]), Entries.get?_put_self]
        rw [List.filter_cons_of_pos (by simpa using unknown), ← List.singleton_append,
          List.filter_append, later]
        refine ((dealt_positionalId identified).mono ?_).append (ih nodup yields)
        intro drawn member number same
        obtain rfl := List.mem_singleton.mp (List.mem_of_mem_filter member)
        rw [given, same]

theorem minted_lookUp {query : AddressQuery} {outcome : LookupOutcome}
    (yields : Yields (lookUp setting query) progress outcome progress') :
    progress'.minted = progress.minted := by
  unfold lookUp at yields
  split at yields
  next =>
    obtain ⟨_, rfl⟩ := yields_pure.mp yields
    rfl
  next =>
    obtain ⟨answer, _, asked, yields⟩ := yields_bind.mp yields
    obtain ⟨_, rfl⟩ := yields_ask.mp asked
    split at yields
    · obtain ⟨_, rfl⟩ := yields_pure.mp yields
      rfl
    · split at yields
      all_goals
        obtain ⟨_, rfl⟩ := yields_pure.mp yields
        rfl

theorem minted_lookUpAll {ids : Identifiers} {entries : List Entry} {lookups : List Lookup}
    (yields : Yields (lookUpAll setting options row ids entries) progress lookups progress') :
    progress'.minted = progress.minted := by
  induction entries generalizing progress lookups with
  | nil =>
      obtain ⟨_, rfl⟩ := yields_pure.mp yields
      rfl
  | cons entry entries ih =>
      unfold lookUpAll at yields
      split at yields
      next =>
        obtain ⟨outcome, _, looked, yields⟩ := yields_bind.mp yields
        obtain ⟨others, _, rest, yields⟩ := yields_bind.mp yields
        obtain ⟨_, rfl⟩ := yields_pure.mp yields
        exact (ih rest).trans (minted_lookUp looked)
      next => exact ih yields

end Execution

/-- The scope at the place of the draw knows the drawn symbol by the random identifier with the
number. -/
def Scope.HasDrawn (fresh : Nat → String) (result : Scope) (draw : List Branch × String)
    (number : Nat) : Prop :=
  ∃ inner, result.follow? draw.1 = some inner ∧
    Entries.get? draw.2 inner.identifiers = some (fresh number)

/-- One of the repetitions of the fact, which stands at the given entry and rule, has drawn. -/
def Fact.HasDrawn (fresh : Nat → String) (fact : Fact) (j k : Nat) (draw : List Branch × String)
    (number : Nat) : Prop :=
  ∃ occurrence i, (occurrence, i) ∈ fact.occurrences.zipIdx ∧ ∃ place,
    draw.1 = ⟨j, k, i⟩ :: place ∧ occurrence.2.HasDrawn fresh (place, draw.2) number

/-- What a fact of a scope has drawn, the scope has drawn. -/
theorem Fact.HasDrawn.scope {fresh : Nat → String} {result : Scope} {entity : Entity} {fact : Fact}
    {j k number : Nat} {draw : List Branch × String}
    (h : fact.HasDrawn fresh j k draw number) (entityAt : result.entities[j]? = some entity)
    (factAt : entity.facts[k]? = some fact) : result.HasDrawn fresh draw number := by
  obtain ⟨chain, symbol⟩ := draw
  obtain ⟨occurrence, i, numbered, place, rfl, inner, reached, known⟩ := h
  refine ⟨inner, Option.bind_eq_some_iff.mpr ⟨occurrence, ?_, reached⟩, known⟩
  cases fact with
  | repeated predicates occurrences =>
      exact Scope.branch?_eq_some_iff.mpr ⟨entity, predicates, occurrences, entityAt, factAt,
        List.mk_mem_zipIdx_iff_getElem?.mp numbered⟩
  | type => cases numbered
  | link => cases numbered
  | values => cases numbered

namespace Site

def ruleDraws (site : Site) (j k : Nat) (rule : Rule) : List (List Branch × String) :=
  (site.repetitions rule).zipIdx.flatMap fun (next, i) => drawsBehind ⟨j, k, i⟩ next

theorem flatMap_drawsBehind (site : Site) :
    (site.branches.flatMap fun step => drawsBehind step.1 step.2) =
      site.template.entries.zipIdx.flatMap fun (entry, j) =>
        entry.rules.zipIdx.flatMap fun (rule, k) => site.ruleDraws j k rule := by
  simp only [branches, ruleDraws, List.flatMap_assoc, List.flatMap_map]

section Execution

variable {setting : Setting} {site : Site} {ids : Identifiers} {progress progress' : Progress}

/-- The site deals out its draws whenever it is entered with the identifiers that it expects. -/
def DealsOut (setting : Setting) (site : Site) : Prop :=
  ∀ inherited result progress progress',
    (∀ name, name ∈ Entries.names inherited ↔ site.Knows setting name) →
    Yields (Expanding.template setting site.template site.row inherited site.element) progress
      result progress' →
    Dealt (result.HasDrawn setting.fresh) site.draws progress.minted progress'.minted

/-- Entering a repetition takes the identifier of the linked symbol, and then those of the site. -/
theorem dealt_repetition (positional : setting.mode.isDeterministic = false)
    (names : ∀ name, name ∈ Entries.names ids ↔ site.InScope setting name) {symbol : String}
    {iteration : Iteration} {inner : Template} {value : Datum} {i : Nat}
    {occurrence : String × Scope}
    (inside : (site.enter i symbol iteration inner value).DealsOut setting)
    (repeats : RepeatsFrom setting site.template.options site.derived ids symbol
      iteration.variableName (Expanding.template setting inner) (value, i) occurrence progress
      progress') :
    let next := site.enter i symbol iteration inner value
    Dealt (occurrence.2.HasDrawn setting.fresh) (next.linkDraws.map ([], ·) ++ next.draws)
      progress.minted progress'.minted := by
  intro next
  obtain ⟨_, seed, middle, seeded, entered⟩ := repeats
  have knows (name : String) : name ∈ Entries.names seed ↔ next.Knows setting name := by
    rw [(yields_seedFor seeded).names, names, knows_enter_iff]
  refine Dealt.append ?_ (inside seed occurrence.2 middle progress' knows entered)
  have expands : Expands setting inner next.row seed next.element occurrence.2 :=
    ⟨middle, progress', entered⟩
  unfold seedFor at seeded
  rw [if_neg (by simp [positional])] at seeded
  obtain ⟨id, _, identified, seeded⟩ := yields_bind.mp seeded
  obtain ⟨rfl, rfl⟩ := yields_pure.mp seeded
  have put := Entries.get?_put_self symbol id ids
  have kept := expands.run.1.kept (Entries.mem_names_of_get? put)
  refine Dealt.map ((dealt_positionalId identified).mono ?_)
  intro drawn member number same
  obtain rfl := List.mem_singleton.mp (List.mem_of_mem_filter member)
  exact ⟨occurrence.2, rfl, by rw [kept, put, same]⟩

/-- The repetitions of a rule take their identifiers one after another. -/
theorem dealt_repetitions (positional : setting.mode.isDeterministic = false)
    (names : ∀ name, name ∈ Entries.names ids ↔ site.InScope setting name) {name symbol : String}
    {predicates : List String} {iteration : Iteration} {inner : Template}
    {occurrences : List (String × Scope)} (j k : Nat)
    (inside : ∀ next ∈ site.repetitions ⟨.repeated name symbol, predicates⟩, next.DealsOut setting)
    (part : site.template.subtemplates.lookup name = some (iteration, inner))
    (repeats : Threaded (RepeatsFrom setting site.template.options site.derived ids symbol
        iteration.variableName (Expanding.template setting inner))
      (site.derived.values iteration.source).zipIdx occurrences progress progress') :
    Dealt (Fact.HasDrawn setting.fresh (.repeated predicates occurrences) j k)
      (site.ruleDraws j k ⟨.repeated name symbol, predicates⟩) progress.minted
        progress'.minted := by
  rw [ruleDraws, repetitions_eq part, List.zipIdx_map, List.flatMap_map]
  have each : ∀ (element : Datum × Nat) (occurrence : String × Scope) (i : Nat)
      (before after : Progress),
      (element, i) ∈ (site.derived.values iteration.source).zipIdx.zipIdx →
      RepeatsFrom setting site.template.options site.derived ids symbol iteration.variableName
        (Expanding.template setting inner) element occurrence before after →
      Dealt (fun draw number => ∃ place, draw.1 = ⟨j, k, i⟩ :: place ∧
          occurrence.2.HasDrawn setting.fresh (place, draw.2) number)
        (drawsBehind ⟨j, k, i⟩ (site.enter element.2 symbol iteration inner element.1))
        before.minted after.minted := by
    rintro ⟨value, i'⟩ occurrence i before after numbered repeats
    obtain ⟨valueAt, rfl⟩ : (site.derived.values iteration.source)[i]? = some value ∧ i = i' := by
      simpa [List.mk_mem_zipIdx_iff_getElem?, List.getElem?_zipIdx] using numbered
    have next : site.enter i symbol iteration inner value ∈
        site.repetitions ⟨.repeated name symbol, predicates⟩ :=
      List.mem_of_getElem? (getElem?_repetitions.mpr
        ⟨name, symbol, iteration, inner, value, rfl, part, valueAt, rfl⟩)
    refine Dealt.map ((dealt_repetition positional names (inside _ next) repeats).mono ?_)
    exact fun draw _ number drawn => ⟨draw.1, rfl, drawn⟩
  exact Dealt.of_threaded repeats each

/-- A rule takes the identifiers of its repetitions. -/
theorem dealt_fact (positional : setting.mode.isDeterministic = false)
    (names : ∀ name, name ∈ Entries.names ids ↔ site.InScope setting name) {entry : Entry}
    {rule : Rule} {fact : Fact} (j k : Nat)
    (inside : ∀ next ∈ site.repetitions rule, next.DealsOut setting)
    (becomes : BecomesFrom setting site.template.options site.derived ids
      (subtemplatesOf setting site.template.subtemplates) entry rule fact progress progress') :
    Dealt (fact.HasDrawn setting.fresh j k) (site.ruleDraws j k rule) progress.minted
      progress'.minted := by
  obtain ⟨target, predicates⟩ := rule
  cases target with
  | type =>
      obtain ⟨_, rfl⟩ := yields_pure.mp becomes
      exact .nil
  | column name =>
      obtain ⟨_, rfl⟩ := yields_pure.mp becomes
      exact .nil
  | symbol name =>
      obtain ⟨_, _, required, yields⟩ := yields_bind.mp becomes
      obtain ⟨_, rfl⟩ := yields_require.mp required
      obtain ⟨_, rfl⟩ := yields_pure.mp yields
      exact .nil
  | repeated name symbol =>
      simp only [BecomesFrom, Expanding.fact, lookup_subtemplatesOf] at becomes
      cases part : site.template.subtemplates.lookup name with
      | none =>
          rw [part] at becomes
          exact absurd becomes not_yields_throw
      | some found =>
          obtain ⟨iteration, inner⟩ := found
          simp only [part, Option.map_some] at becomes
          obtain ⟨occurrences, _, repeated, yields⟩ := yields_bind.mp becomes
          obtain ⟨rfl, rfl⟩ := yields_pure.mp yields
          exact dealt_repetitions positional names j k inside part (threaded_repeatFor repeated)

/-- A site takes the identifiers of its own symbols while it identifies them. -/
theorem dealt_identify (positional : setting.mode.isDeterministic = false) {inherited : Identifiers}
    (names : ∀ name, name ∈ Entries.names inherited ↔ site.Knows setting name)
    (identified : Yields (identify setting site.template.entries site.template.options site.derived
      site.element inherited) progress ids progress') :
    Dealt (fun symbol number => Entries.get? symbol ids = some (setting.fresh number)) site.ownDraws
      progress.minted progress'.minted := by
  unfold identify at identified
  rw [if_neg (by simp [positional])] at identified
  have symbols : site.ownSymbols =
      site.template.symbols.filter fun symbol => symbol ∉ Entries.names inherited := by
    refine List.filter_congr fun symbol _ => decide_eq_decide.mpr ?_
    rw [names, Knows, relinked_of_positional positional, not_or]
  rw [ownDraws, symbols]
  exact dealt_positionalIds (nodup_declaredSymbols _) identified

/-- A site deals out its draws: its own while it identifies its symbols, and those of its
repetitions entry by entry and rule by rule. -/
theorem dealsOut (positional : setting.mode.isDeterministic = false) (site : Site) :
    site.DealsOut setting := by
  intro inherited result progress progress' names yields
  obtain ⟨middle, middle', identified, looked, entered⟩ := yields_template yields
  have own := dealt_identify positional names identified
  have inScope (name : String) : name ∈ Entries.names result.identifiers ↔
      site.InScope setting name := by
    rw [names_identify identified, names]
    rfl
  have inside : ∀ rule entry k, (rule, k) ∈ entry.rules.zipIdx → ∀ j,
      (entry, j) ∈ site.template.entries.zipIdx → ∀ next ∈ site.repetitions rule,
      next.DealsOut setting := by
    intro rule entry k ruleAt j entryAt next member
    have listed : next ∈ site.inner := List.mem_flatMap.mpr ⟨rule, List.mem_flatMap.mpr
      ⟨entry, List.fst_mem_of_mem_zipIdx entryAt, List.fst_mem_of_mem_zipIdx ruleAt⟩, member⟩
    exact dealsOut positional next
  have rest := Dealt.of_threaded (threaded_entities entered)
    fun entry entity j _ _ entryAt instantiates => Dealt.of_threaded instantiates.facts
      fun rule fact k _ _ ruleAt becomes =>
        dealt_fact positional inScope j k (inside rule entry k ruleAt j entryAt) becomes
  rw [draws_eq, flatMap_drawsBehind]
  refine (Dealt.map (own.mono ?_)).append (minted_lookUpAll looked ▸ rest.mono ?_)
  · exact fun symbol _ number known => ⟨result, rfl, known⟩
  · rintro draw _ number ⟨entity, j, entityAt, fact, k, factAt, drawn⟩
    exact drawn.scope (List.mk_mem_zipIdx_iff_getElem?.mp entityAt)
      (List.mk_mem_zipIdx_iff_getElem?.mp factAt)
termination_by sizeOf site.template
decreasing_by exact sizeOf_lt_of_mem_inner listed

end Execution

end Site

end RowTriples
