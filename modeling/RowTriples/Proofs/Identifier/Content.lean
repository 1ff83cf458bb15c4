import RowTriples.Entity.Expansion
import RowTriples.Proofs.Identifier.Agenda
/-!
# Identifiers by content

What the identification of a scope by content comes to is a matter of the links between the pending
entries: a link that leads nowhere, a cycle, or identifiers that satisfy the equations of the
content. The equations have one solution, so the order in which the entries are written does not
matter.
-/

namespace RowTriples

/-- The identifiers solve the equations of a scope: they keep what is inherited, take over what
columns supply, and identify every pending entry by its content with the identifiers of its links.
-/
structure Resolves (mode : Mode) (file : String) (row : Row) (entries : List Entry)
    (inherited ids : Identifiers) : Prop where
  names : ∀ name, name ∈ Entries.names ids ↔
    name ∈ Entries.names inherited ∨ name ∈ entries.map (·.symbol)
  kept : ∀ name ∈ Entries.names inherited, Entries.get? name ids = Entries.get? name inherited
  supplied : ∀ name ∈ entries.map (·.symbol), name ∉ Entries.names inherited →
    ∀ value, row.Supplies name value → Entries.get? name ids = some value.plainText
  content : ∀ entry : Entry, entry.IsPending row entries inherited →
    Entries.get? entry.symbol ids = some (entry.contentId mode file row ids)
  linked : ∀ entry : Entry, entry.IsPending row entries inherited →
    ∀ target ∈ entry.links, target ∈ Entries.names ids

section Pending

variable {row : Row} {entries others : List Entry} {inherited : Identifiers} {entry : Entry}

theorem Entry.IsPending.mem (h : entry.IsPending row entries inherited) : entry ∈ entries :=
  List.mem_of_find?_eq_some h.first

/-- A declared symbol without an identifier from elsewhere is that of a pending entry. -/
theorem exists_isPending {name : String} (declared : name ∈ entries.map (·.symbol))
    (new : name ∉ Entries.names inherited) (unsupplied : ∀ value, ¬row.Supplies name value) :
    ∃ entry : Entry, entry.IsPending row entries inherited ∧ entry.symbol = name := by
  obtain ⟨some, member, same⟩ := List.mem_map.mp declared
  obtain ⟨first, found⟩ := Option.isSome_iff_exists.mp
    (List.find?_isSome.mpr ⟨some, member, decide_eq_true same⟩ :
      (entries.find? (·.symbol = name)).isSome = true)
  obtain rfl : first.symbol = name := by simpa using List.find?_some found
  exact ⟨first, ⟨found, new, unsupplied⟩, rfl⟩

/-- Where symbols are not repeated, being pending does not depend on the order of the entries. -/
theorem Entry.IsPending.perm (h : entry.IsPending row entries inherited)
    (perm : entries.Perm others) (nodup : (entries.map (·.symbol)).Nodup) :
    entry.IsPending row others inherited := by
  refine ⟨?_, h.new, h.unsupplied⟩
  have member : entry ∈ others := perm.mem_iff.mp h.mem
  obtain ⟨first, found⟩ := Option.isSome_iff_exists.mp
    (List.find?_isSome.mpr ⟨entry, member, decide_eq_true rfl⟩ :
      (others.find? (·.symbol = entry.symbol)).isSome = true)
  have same : first.symbol = entry.symbol := by simpa using List.find?_some found
  have nodup : (others.map (·.symbol)).Nodup := (perm.map _).nodup_iff.mp nodup
  rw [found, List.inj_on_of_nodup_map nodup (List.mem_of_find?_eq_some found) member same]

theorem hasCycle_perm (perm : entries.Perm others) (nodup : (entries.map (·.symbol)).Nodup) :
    HasCycle (·.IsPending row entries inherited) ↔ HasCycle (·.IsPending row others inherited) := by
  have nodup' : (others.map (·.symbol)).Nodup := (perm.map _).nodup_iff.mp nodup
  exact ⟨fun h => h.mono fun _ p => p.perm perm nodup,
    fun h => h.mono fun _ p => p.perm perm.symm nodup'⟩

theorem hasDanglingLink_perm (perm : entries.Perm others) (nodup : (entries.map (·.symbol)).Nodup) :
    HasDanglingLink row entries inherited ↔ HasDanglingLink row others inherited := by
  have nodup' : (others.map (·.symbol)).Nodup := (perm.map _).nodup_iff.mp nodup
  have declared (name : String) : name ∈ entries.map (·.symbol) ↔ name ∈ others.map (·.symbol) :=
    (perm.map _).mem_iff
  constructor
  · rintro ⟨entry, pending, target, link, undeclared, new⟩
    exact ⟨entry, pending.perm perm nodup, target, link, (declared target).not.mp undeclared, new⟩
  · rintro ⟨entry, pending, target, link, undeclared, new⟩
    exact ⟨entry, pending.perm perm.symm nodup', target, link,
      (declared target).not.mpr undeclared, new⟩

end Pending

namespace Resolves

variable {mode : Mode} {file : String} {row : Row} {entries others : List Entry}
variable {inherited ids ids' : Identifiers}

/-- The equations do not depend on the order of entries with different symbols. -/
theorem perm (h : Resolves mode file row entries inherited ids) (perm : entries.Perm others)
    (nodup : (entries.map (·.symbol)).Nodup) : Resolves mode file row others inherited ids := by
  have nodup' : (others.map (·.symbol)).Nodup := (perm.map _).nodup_iff.mp nodup
  have declared (name : String) : name ∈ others.map (·.symbol) ↔ name ∈ entries.map (·.symbol) :=
    (perm.map _).mem_iff.symm
  refine ⟨fun name => ?_, h.kept, fun name d => h.supplied name ((declared name).mp d),
    fun entry p => h.content entry (p.perm perm.symm nodup'),
    fun entry p => h.linked entry (p.perm perm.symm nodup')⟩
  rw [declared, h.names]

/-- Two solutions can only differ at the symbol of a pending entry. -/
theorem isPending_of_ne (h : Resolves mode file row entries inherited ids)
    (h' : Resolves mode file row entries inherited ids') {name : String}
    (ne : Entries.get? name ids ≠ Entries.get? name ids') :
    ∃ entry : Entry, entry.IsPending row entries inherited ∧ entry.symbol = name := by
  have new : name ∉ Entries.names inherited := fun known =>
    ne ((h.kept name known).trans (h'.kept name known).symm)
  have declared : name ∈ entries.map (·.symbol) := by
    by_contra undeclared
    have absent : ¬(name ∈ Entries.names inherited ∨ name ∈ entries.map (·.symbol)) :=
      not_or.mpr ⟨new, undeclared⟩
    exact ne ((Entries.get?_eq_none_iff.mpr fun m => absent ((h.names name).mp m)).trans
      (Entries.get?_eq_none_iff.mpr fun m => absent ((h'.names name).mp m)).symm)
  refine exists_isPending declared new fun value supplied => ?_
  exact ne ((h.supplied name declared new value supplied).trans
    (h'.supplied name declared new value supplied).symm)

/-- Without a cycle the equations have one solution: entries that two solutions identify differently
would have to link to each other without end. -/
theorem unique (h : Resolves mode file row entries inherited ids)
    (h' : Resolves mode file row entries inherited ids')
    (acyclic : ¬HasCycle (·.IsPending row entries inherited)) (name : String) :
    Entries.get? name ids = Entries.get? name ids' := by
  by_contra ne
  let differing := (Identifiers.takeBound row entries inherited []).2.filter fun entry =>
    Entries.get? entry.symbol ids ≠ Entries.get? entry.symbol ids'
  have mem_differing {entry : Entry} : entry ∈ differing ↔
      entry.IsPending row entries inherited ∧
        Entries.get? entry.symbol ids ≠ Entries.get? entry.symbol ids' := by
    simp [differing, Identifiers.mem_pending_iff]
  have nonempty : differing ≠ [] := by
    obtain ⟨entry, pending, rfl⟩ := h.isPending_of_ne h' ne
    exact List.ne_nil_of_mem (mem_differing.mpr ⟨pending, ne⟩)
  refine acyclic (HasCycle.of_stuck nonempty (fun entry member => (mem_differing.mp member).1) ?_)
  intro entry member
  obtain ⟨pending, differs⟩ := mem_differing.mp member
  rw [h.content entry pending, h'.content entry pending] at differs
  have : ∃ target ∈ entry.links, Entries.get? target ids ≠ Entries.get? target ids' := by
    by_contra agree
    push Not at agree
    exact differs (congrArg some (Entry.contentId_congr agree))
  obtain ⟨target, link, differs⟩ := this
  obtain ⟨other, otherPending, rfl⟩ := h.isPending_of_ne h' differs
  exact ⟨other, mem_differing.mpr ⟨otherPending, differs⟩, link⟩

end Resolves

namespace Identifiers

variable {mode : Mode} {file : String} {row : Row} {entries pending : List Entry}
variable {inherited ids : Identifiers}

theorem nodup_pending : ((takeBound row entries inherited []).2.map (·.symbol)).Nodup :=
  nodup_takeBound List.nodup_nil

/-- After the supplied identifiers are taken over, the names in use are those of before: the pending
ones and those with an identifier. -/
theorem pending_or_known_iff (row : Row) (name : String) :
    name ∈ (takeBound row entries inherited []).2.map (·.symbol) ∨
        name ∈ Entries.names (takeBound row entries inherited []).1 ↔
      name ∈ Entries.names inherited ∨ name ∈ entries.map (·.symbol) := by
  have known : name ∈ Entries.names (takeBound row entries inherited []).1 ↔
      name ∈ Entries.names inherited ∨
        (if name ∈ entries.map (·.symbol) then row.boundId? name else none).isSome = true := by
    rw [← Entries.get?_isSome_iff, get?_takeBound (by simp), Option.isSome_or, Bool.or_eq_true,
      Entries.get?_isSome_iff]
  rw [known]
  constructor
  · rintro (waiting | known | bound)
    · obtain ⟨entry, member, rfl⟩ := List.mem_map.mp waiting
      exact .inr (List.mem_map_of_mem (mem_pending_iff.mp member).mem)
    · exact .inl known
    · by_contra absent
      simp [(not_or.mp absent).2] at bound
  · rintro (known | declared)
    · exact .inr (.inl known)
    · by_cases known : name ∈ Entries.names inherited
      · exact .inr (.inl known)
      · cases bound : row.boundId? name with
        | some id => exact .inr (.inr (by simp [declared]))
        | none =>
            obtain ⟨entry, isPending, rfl⟩ :=
              exists_isPending declared known (Row.boundId?_eq_none_iff.mp bound)
            exact .inl (List.mem_map_of_mem (mem_pending_iff.mpr isPending))

theorem danglingLink?_eq_none_iff :
    danglingLink? ids pending = none ↔ ∀ entry ∈ pending, ∀ target ∈ entry.links,
      target ∈ pending.map (·.symbol) ∨ target ∈ Entries.names ids := by
  simp only [danglingLink?, List.findSome?_eq_none_iff, Option.map_eq_none_iff,
    List.find?_eq_none, Bool.and_eq_true, Bool.not_eq_true', List.any_eq_false, decide_eq_true_eq,
    not_and, Bool.not_eq_false, Entries.has_iff, List.mem_map]
  refine forall₄_congr fun entry _ target _ => ?_
  rw [or_iff_not_imp_left]
  simp

/-- No entry is left exactly if the pending entries are free of cycles. -/
theorem eq_nil_iff_not_hasCycle {rest : List Entry}
    (settles : Agenda.Settles (Entry.contentId mode file row) (takeBound row entries inherited []).2
      (takeBound row entries inherited []).1 ids rest) :
    rest = [] ↔ ¬HasCycle (·.IsPending row entries inherited) := by
  constructor
  · intro empty cycle
    have cycle : HasCycle (· ∈ (takeBound row entries inherited []).2) :=
      cycle.mono fun _ pending => mem_pending_iff.mpr pending
    obtain ⟨trapped, ⟨symbol, inside⟩, trap⟩ := cycle.exists_trap
    obtain ⟨_, ⟨entry, _, member, _, rfl, _, _⟩, _⟩ := trap symbol inside
    exact List.ne_nil_of_mem (settles.trapped trapped trap entry member inside) empty
  · intro acyclic
    by_contra left
    refine acyclic (HasCycle.of_stuck left ?_ settles.stuck)
    exact fun entry member => mem_pending_iff.mp (settles.sublist.subset member)

/-- When no entry is left and no link dangles, the equations are solved. -/
theorem resolves_of_settles (sound : ¬HasDanglingLink row entries inherited)
    (settles : Agenda.Settles (Entry.contentId mode file row) (takeBound row entries inherited []).2
      (takeBound row entries inherited []).1 ids []) :
    Resolves mode file row entries inherited ids := by
  have identified : ∀ entry : Entry, entry.IsPending row entries inherited →
      Entries.get? entry.symbol ids = some (entry.contentId mode file row ids) :=
    fun entry isPending => settles.identified entry (mem_pending_iff.mpr isPending) List.not_mem_nil
  have untouched : ∀ name, (∀ entry : Entry, entry.IsPending row entries inherited →
      entry.symbol ≠ name) → Entries.get? name ids =
        (Entries.get? name inherited).or
          (if name ∈ entries.map (·.symbol) then row.boundId? name else none) := by
    intro name other
    have outside : name ∉ (takeBound row entries inherited []).2.map (·.symbol) := by
      intro inside
      obtain ⟨entry, member, same⟩ := List.mem_map.mp inside
      exact other entry (mem_pending_iff.mp member) same
    rw [settles.untouched name outside, get?_takeBound (by simp)]
  have names : ∀ name, name ∈ Entries.names ids ↔
      name ∈ Entries.names inherited ∨ name ∈ entries.map (·.symbol) := by
    intro name
    refine Iff.trans ?_ (pending_or_known_iff row name)
    by_cases waiting : name ∈ (takeBound row entries inherited []).2.map (·.symbol)
    · obtain ⟨entry, member, rfl⟩ := List.mem_map.mp waiting
      simp only [waiting, true_or, iff_true]
      rw [← Entries.get?_isSome_iff, identified entry (mem_pending_iff.mp member)]
      rfl
    · simp only [waiting, false_or]
      rw [← Entries.get?_isSome_iff, ← Entries.get?_isSome_iff, get?_takeBound (by simp),
        untouched name fun entry isPending same => waiting
          (same ▸ List.mem_map_of_mem (mem_pending_iff.mpr isPending))]
  refine ⟨names, ?_, ?_, identified, ?_⟩
  · intro name known
    obtain ⟨id, found⟩ := Entries.exists_get?_of_mem known
    rw [untouched name fun entry isPending same => isPending.new (same ▸ known), found]
    rfl
  · intro name declared new value supplied
    rw [untouched name fun entry isPending same => isPending.unsupplied value (same ▸ supplied),
      Entries.get?_eq_none_iff.mpr new, if_pos declared,
      Row.boundId?_eq_some_iff.mpr ⟨value, supplied, rfl⟩]
    rfl
  · intro entry isPending target link
    rw [names]
    by_contra absent
    exact sound ⟨entry, isPending, target, link, (not_or.mp absent).2, (not_or.mp absent).1⟩

theorem hasDanglingLink_iff :
    HasDanglingLink row entries inherited ↔
      danglingLink? (takeBound row entries inherited []).1
        (takeBound row entries inherited []).2 ≠ none := by
  rw [Ne, danglingLink?_eq_none_iff]
  simp only [pending_or_known_iff, mem_pending_iff]
  simp only [HasDanglingLink, not_forall, exists_prop, not_or]
  refine exists_congr fun entry => and_congr_right fun _ => exists_congr fun target => ?_
  exact and_congr_right fun _ => And.comm

/-- Without a link that leads nowhere the outcome is a matter of the entries that are left. -/
theorem byContent_of_sound (mode : Mode) (file : String)
    (sound : ¬HasDanglingLink row entries inherited) :
    ∃ ids rest, Agenda.Settles (Entry.contentId mode file row)
        (takeBound row entries inherited []).2 (takeBound row entries inherited []).1 ids rest ∧
      byContent mode file row entries inherited =
        if rest = [] then .ok ids else .error (.cycle (rest.map (·.symbol))) := by
  have unlinked := not_not.mp (hasDanglingLink_iff.not.mp sound)
  obtain ⟨settles, done_lt_iff⟩ := identifyPending_settles mode file row nodup_pending
  refine ⟨_, _, settles, ?_⟩
  simp only [byContent, unlinked, done_lt_iff, ne_eq, ite_not]

/-- The three outcomes of the identification by content, each with what makes it come about. -/
theorem byContent_cases (mode : Mode) (file : String) (row : Row) (entries : List Entry)
    (inherited : Identifiers) :
    (HasDanglingLink row entries inherited ∧ ∃ target symbol,
      byContent mode file row entries inherited = .error (.unknownSymbol target symbol)) ∨
    (¬HasDanglingLink row entries inherited ∧ HasCycle (·.IsPending row entries inherited) ∧
      ∃ members, byContent mode file row entries inherited = .error (.cycle members)) ∨
    (¬HasDanglingLink row entries inherited ∧ ¬HasCycle (·.IsPending row entries inherited) ∧
      ∃ ids, byContent mode file row entries inherited = .ok ids ∧
        Resolves mode file row entries inherited ids) := by
  by_cases sound : HasDanglingLink row entries inherited
  · obtain ⟨link, dangling⟩ := Option.ne_none_iff_exists'.mp (hasDanglingLink_iff.mp sound)
    exact .inl ⟨sound, link.1, link.2, by simp only [byContent, dangling]⟩
  obtain ⟨ids, rest, settles, outcome⟩ := byContent_of_sound mode file sound
  have left_iff := eq_nil_iff_not_hasCycle settles
  by_cases cyclic : HasCycle (·.IsPending row entries inherited)
  · rw [if_neg (left_iff.not.mpr (not_not_intro cyclic))] at outcome
    exact .inr (.inl ⟨sound, cyclic, _, outcome⟩)
  · obtain rfl := left_iff.mpr cyclic
    exact .inr (.inr ⟨sound, cyclic, ids, outcome, resolves_of_settles sound settles⟩)

end Identifiers

/-- In a deterministic mode the content decides, and nothing is taken from outside. -/
theorem Expanding.identify_deterministic {setting : Setting} {entries : List Entry}
    {options : Options} {row : Row} {element : Option Nat} {inherited : Identifiers}
    {progress : Progress} (deterministic : setting.mode.isDeterministic = true) :
    ((Expanding.identify setting entries options row element inherited).run progress :
      Except ExpansionError Identifiers × Progress) =
      (Identifiers.byContent setting.mode setting.file row entries inherited, progress) := by
  unfold Expanding.identify
  rw [if_pos deterministic]
  rfl

/-- What identification by content comes to, for every scope, row and inherited identifiers. It
refuses a scope because of a link exactly if a pending entry links to a symbol that is neither
declared nor inherited; because of a cycle exactly if there is no such link and pending entries link
in a circle; and otherwise it finds the one solution of the equations of the scope, which does not
depend on the order of entries with different symbols. -/
theorem identify_by_content (setting : Setting) (entries : List Entry) (options : Options)
    (row : Row) (element : Option Nat) (inherited : Identifiers) (progress : Progress)
    (deterministic : setting.mode.isDeterministic = true) :
    let run := fun entries =>
      (Expanding.identify setting entries options row element inherited).run progress
    (run entries).2 = progress ∧
    ((∃ target symbol, (run entries).1 = .error (.unknownSymbol target symbol)) ↔
      HasDanglingLink row entries inherited) ∧
    ((∃ members, (run entries).1 = .error (.cycle members)) ↔
      ¬HasDanglingLink row entries inherited ∧ HasCycle (·.IsPending row entries inherited)) ∧
    ((∃ ids, (run entries).1 = .ok ids) ↔
      ¬HasDanglingLink row entries inherited ∧ ¬HasCycle (·.IsPending row entries inherited)) ∧
    (∀ ids, (run entries).1 = .ok ids →
      Resolves setting.mode setting.file row entries inherited ids) ∧
    ∀ others, others.Perm entries → (entries.map (·.symbol)).Nodup →
      ∀ ids, (run entries).1 = .ok ids → ∃ ids', (run others).1 = .ok ids' ∧
        ∀ name, Entries.get? name ids' = Entries.get? name ids := by
  intro run
  have run_eq (entries : List Entry) : run entries =
      (Identifiers.byContent setting.mode setting.file row entries inherited, progress) :=
    Expanding.identify_deterministic deterministic
  have cases := Identifiers.byContent_cases setting.mode setting.file row entries inherited
  simp only [run_eq, true_and]
  refine ⟨?_, ?_, ?_, ?_, ?_⟩
  · rcases cases with ⟨dangling, _, _, eq⟩ | ⟨sound, _, _, eq⟩ | ⟨sound, _, _, eq, _⟩ <;>
      simp [*]
  · rcases cases with ⟨dangling, _, _, eq⟩ | ⟨sound, _, _, eq⟩ | ⟨sound, _, _, eq, _⟩ <;>
      simp [*]
  · rcases cases with ⟨dangling, _, _, eq⟩ | ⟨sound, _, _, eq⟩ | ⟨sound, _, _, eq, _⟩ <;>
      simp [*]
  · intro ids found
    rcases cases with ⟨_, _, _, eq⟩ | ⟨_, _, _, eq⟩ | ⟨_, _, ids', eq, resolves⟩ <;>
      rw [eq] at found
    · cases found
    · cases found
    · cases found
      exact resolves
  · intro others perm nodup ids found
    have nodup' : (others.map (·.symbol)).Nodup := (perm.map _).nodup_iff.mpr nodup
    rcases cases with ⟨_, _, _, eq⟩ | ⟨_, _, _, eq⟩ | ⟨sound, acyclic, _, eq, resolves⟩ <;>
      rw [eq] at found
    · cases found
    · cases found
    cases found
    rcases Identifiers.byContent_cases setting.mode setting.file row others inherited with
      ⟨dangling, _⟩ | ⟨_, cyclic, _⟩ | ⟨_, _, ids', eq', resolves'⟩
    · exact absurd ((hasDanglingLink_perm perm nodup').mp dangling) sound
    · exact absurd ((hasCycle_perm perm nodup').mp cyclic) acyclic
    · exact ⟨ids', eq', (resolves'.perm perm nodup').unique resolves acyclic⟩

/-! ### A scope with links of every kind -/

/-- A setting in which identifiers are chosen by content, everywhere alike. -/
def globalSetting : Setting :=
  { language := ⟨.empty, .of defaultNamespace⟩, mode := .global, fresh := toString,
    file := "people_0.nt", row := 0 }

/-- A person who links to an address declared later, to a badge that a column supplies, and to a
household of the scope around. The address is declared twice, and only its second declaration links
back. -/
def householdEntries : List Entry :=
  [⟨"Person", "person", [⟨.type, []⟩, ⟨.symbol "address", ["livesAt"]⟩,
      ⟨.symbol "badge", ["wears"]⟩, ⟨.symbol "household", ["memberOf"]⟩]⟩,
    ⟨"Address", "address", [⟨.type, []⟩, ⟨.column "city", ["city"]⟩]⟩,
    ⟨"Badge", "badge", [⟨.type, []⟩]⟩,
    ⟨"Home", "address", [⟨.type, []⟩, ⟨.symbol "person", ["inhabitant"]⟩]⟩]

def householdRow : Row :=
  { header := ⟨["city"]⟩, cells := [.text "Paris"],
    derived := [⟨"badge", .text "badge-7", .binding⟩] }

theorem identify_by_content_household :
    globalSetting.mode.isDeterministic = true ∧
    ∃ ids, ((Expanding.identify globalSetting householdEntries {} householdRow none
        [("household", "h1")]).run {}).1 = .ok ids ∧
      Resolves .global "people_0.nt" householdRow householdEntries [("household", "h1")] ids := by
  have found : ∃ ids, ((Expanding.identify globalSetting householdEntries {} householdRow none
      [("household", "h1")]).run {}).1 = .ok ids := ⟨_, rfl⟩
  obtain ⟨ids, found⟩ := found
  exact ⟨rfl, ids, found, (identify_by_content globalSetting householdEntries {} householdRow none
    [("household", "h1")] {} rfl).2.2.2.2.1 ids found⟩

end RowTriples
