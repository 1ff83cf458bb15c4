import RowTriples.Proofs.Identifier.Content
/-!
# The members of a cycle error

The turns of the identification by content end with the entries that wait for each other. Which
these are is a matter of the links alone: the symbols of the error are those that lead to a cycle.
A symbol on a cycle leads to it, but so does every symbol that links to one of a cycle without being
linked from there, and the error names it as well.
-/

namespace RowTriples

/-- The symbol links to itself, over others of the set or directly. -/
def OnCycle (within : Entry → Prop) (symbol : String) : Prop :=
  Relation.TransGen (LinksWithin within) symbol symbol

/-- The symbol is on a cycle or links, over others of the set or directly, to a symbol on one. -/
def LeadsToCycle (within : Entry → Prop) (symbol : String) : Prop :=
  ∃ target, Relation.ReflTransGen (LinksWithin within) symbol target ∧ OnCycle within target

namespace LeadsToCycle

variable {within : Entry → Prop} {symbol : String}

theorem of_onCycle (h : OnCycle within symbol) : LeadsToCycle within symbol :=
  ⟨symbol, .refl, h⟩

/-- The first link on the way leads to a symbol that leads to a cycle itself. -/
theorem exists_link (h : LeadsToCycle within symbol) :
    ∃ target, LinksWithin within symbol target ∧ LeadsToCycle within target := by
  obtain ⟨last, way, loop⟩ := h
  rcases Relation.ReflTransGen.cases_head way with rfl | ⟨next, link, rest⟩
  · obtain ⟨next, link, rest⟩ := Relation.TransGen.head'_iff.mp loop
    exact ⟨next, link, symbol, rest, loop⟩
  · exact ⟨next, link, last, rest, loop⟩

/-- In a finite list of entries each of which links to another one of them, every symbol leads to a
cycle. -/
theorem of_stuck {entries : List Entry} (inside : ∀ entry ∈ entries, within entry)
    (stuck : ∀ entry ∈ entries, ∃ other ∈ entries, other.symbol ∈ entry.links)
    {entry : Entry} (member : entry ∈ entries) : LeadsToCycle within entry.symbol := by
  classical
  -- The entries that are reached from the given one are stuck among themselves.
  let reached (other : Entry) : Prop :=
    Relation.ReflTransGen (LinksWithin within) entry.symbol other.symbol
  have mem_reached {other : Entry} :
      other ∈ entries.filter (fun other => decide (reached other)) ↔
        other ∈ entries ∧ reached other := by
    simp
  have nonempty : entries.filter (fun other => decide (reached other)) ≠ [] :=
    List.ne_nil_of_mem (mem_reached.mpr ⟨member, .refl⟩)
  have cycle : HasCycle fun other => within other ∧ reached other := by
    refine HasCycle.of_stuck nonempty ?_ ?_
    · intro other listed
      obtain ⟨listed, way⟩ := mem_reached.mp listed
      exact ⟨inside other listed, way⟩
    · intro other listed
      obtain ⟨listed, way⟩ := mem_reached.mp listed
      obtain ⟨next, nextListed, link⟩ := stuck other listed
      have step : LinksWithin within other.symbol next.symbol :=
        ⟨other, next, inside other listed, inside next nextListed, rfl, rfl, link⟩
      exact ⟨next, mem_reached.mpr ⟨nextListed, way.tail step⟩, link⟩
  obtain ⟨symbol, loop⟩ := cycle
  obtain ⟨_, ⟨first, _, ⟨_, way⟩, _, rfl, _, _⟩, _⟩ := Relation.TransGen.head'_iff.mp loop
  refine ⟨first.symbol, way, loop.lift id ?_⟩
  rintro _ _ ⟨source, target, hs, ht, rfl, rfl, link⟩
  exact ⟨source, target, hs.1, ht.1, rfl, rfl, link⟩

/-- Only symbols on cycles lead to a cycle exactly if no other symbol links to one on a cycle. -/
theorem iff_onCycle :
    (∀ symbol, LeadsToCycle within symbol ↔ OnCycle within symbol) ↔
      ∀ source target, LinksWithin within source target → OnCycle within target →
        OnCycle within source := by
  constructor
  · intro alone source target link loop
    exact (alone source).mp ⟨target, .single link, loop⟩
  · intro closed symbol
    refine ⟨?_, of_onCycle⟩
    rintro ⟨target, way, loop⟩
    induction way using Relation.ReflTransGen.head_induction_on with
    | refl => exact loop
    | head link _ ih => exact closed _ _ link ih

end LeadsToCycle

namespace Identifiers

variable {mode : Mode} {file : String} {row : Row} {entries : List Entry}
variable {inherited ids : Identifiers}
variable {rest : List Entry}

/-! ### The order of the members -/

/-- The pending symbols stand in the order in which symbols are first declared. -/
theorem pending_sublist_foldl {pending : List Entry} {seen : List String}
    (listed : (pending.map (·.symbol)).Sublist seen)
    (settled : ∀ symbol ∈ seen, symbol ∈ Entries.names ids ∨ symbol ∈ pending.map (·.symbol)) :
    ((takeBound row entries ids pending).2.map (·.symbol)).Sublist
      (entries.foldl (fun seen entry =>
        if seen.contains entry.symbol then seen else seen ++ [entry.symbol]) seen) := by
  fun_induction takeBound row entries ids pending generalizing seen with
  | case1 => exact listed
  | case2 entry entries ids pending known ih =>
      rw [List.foldl_cons]
      split
      · exact ih listed settled
      · refine ih (listed.trans (List.sublist_append_left _ _)) ?_
        intro symbol member
        rcases List.mem_append.mp member with member | member
        · exact settled symbol member
        · obtain rfl := List.mem_singleton.mp member
          simpa [Entries.has_iff] using known
  | case3 entry entries ids pending unknown id bound ih =>
      have unknown : entry.symbol ∉ Entries.names ids ∧ entry.symbol ∉ pending.map (·.symbol) := by
        simpa [Entries.has_iff] using unknown
      have unseen : entry.symbol ∉ seen := fun member =>
        (settled _ member).elim unknown.1 unknown.2
      rw [List.foldl_cons, if_neg (by simpa using unseen)]
      refine ih (listed.trans (List.sublist_append_left _ _)) ?_
      intro symbol member
      rw [Entries.names_put, if_neg unknown.1]
      rcases List.mem_append.mp member with member | member
      · exact (settled symbol member).imp_left (List.mem_append_left _)
      · exact .inl (List.mem_append_right _ member)
  | case4 entry entries ids pending unknown _ ih =>
      have unknown : entry.symbol ∉ Entries.names ids ∧ entry.symbol ∉ pending.map (·.symbol) := by
        simpa [Entries.has_iff] using unknown
      have unseen : entry.symbol ∉ seen := fun member =>
        (settled _ member).elim unknown.1 unknown.2
      rw [List.foldl_cons, if_neg (by simpa using unseen)]
      refine ih ?_ ?_
      · rw [List.map_append]
        exact listed.append (List.Sublist.refl _)
      · intro symbol member
        rw [List.map_append, List.mem_append]
        rcases List.mem_append.mp member with member | member
        · exact (settled symbol member).imp_right .inl
        · exact .inr (.inr member)

theorem pending_sublist_declaredSymbols :
    ((takeBound row entries inherited []).2.map (·.symbol)).Sublist (declaredSymbols entries) :=
  pending_sublist_foldl (List.Sublist.refl _) nofun

/-! ### Who the members are -/

/-- An entry is left without an identifier exactly if it is pending and its symbol leads to a cycle:
what is left waits for each other, and what leads to a cycle never gets ready. -/
theorem mem_rest_iff (settles : Agenda.Settles (Entry.contentId mode file row)
      (takeBound row entries inherited []).2 (takeBound row entries inherited []).1 ids rest)
    {entry : Entry} :
    entry ∈ rest ↔ entry.IsPending row entries inherited ∧
      LeadsToCycle (·.IsPending row entries inherited) entry.symbol := by
  have pending : ∀ entry ∈ rest, entry.IsPending row entries inherited := fun entry member =>
    mem_pending_iff.mp (settles.sublist.subset member)
  constructor
  · intro left
    exact ⟨pending entry left, .of_stuck pending settles.stuck left⟩
  · rintro ⟨isPending, leads⟩
    refine settles.trapped _ ?_ entry (mem_pending_iff.mpr isPending) leads
    intro symbol leads
    obtain ⟨target, ⟨source, other, hs, ho, rfl, rfl, link⟩, leads⟩ := leads.exists_link
    exact ⟨_, ⟨source, other, mem_pending_iff.mpr hs, mem_pending_iff.mpr ho, rfl, rfl, link⟩,
      leads⟩

/-- A cycle error names the entries that are left. -/
theorem exists_settles_of_cycle {members : List String}
    (refused : byContent mode file row entries inherited = .error (.cycle members)) :
    ∃ ids rest, Agenda.Settles (Entry.contentId mode file row)
        (takeBound row entries inherited []).2 (takeBound row entries inherited []).1 ids rest ∧
      members = rest.map (·.symbol) := by
  rcases byContent_cases mode file row entries inherited with
    ⟨_, _, _, eq⟩ | ⟨sound, _⟩ | ⟨_, _, _, eq, _⟩
  · simp [eq] at refused
  · obtain ⟨ids, rest, settles, outcome⟩ := byContent_of_sound mode file sound
    rw [outcome] at refused
    split at refused
    · cases refused
    · cases refused
      exact ⟨ids, rest, settles, rfl⟩
  · simp [eq] at refused

end Identifiers

/-! ### The error -/

/-- A cycle error comes about exactly if no link dangles and pending entries link in a circle. Its
members are the pending symbols that lead to a cycle, each once and in the order of declaration.
They are the symbols of the cycles alone exactly if no symbol off the cycles links to one of
them. -/
theorem cycle_members (setting : Setting) (entries : List Entry) (options : Options) (row : Row)
    (element : Option Nat) (inherited : Identifiers) (progress : Progress)
    (deterministic : setting.mode.isDeterministic = true) :
    let outcome :=
      ((Expanding.identify setting entries options row element inherited).run progress).1
    let pending := fun entry : Entry => entry.IsPending row entries inherited
    ((∃ members, outcome = .error (.cycle members)) ↔
      ¬HasDanglingLink row entries inherited ∧ HasCycle pending) ∧
    ∀ members, outcome = .error (.cycle members) →
      members.Nodup ∧ members.Sublist (declaredSymbols entries) ∧
      (∀ symbol, symbol ∈ members ↔ LeadsToCycle pending symbol) ∧
      ((∀ symbol, symbol ∈ members ↔ OnCycle pending symbol) ↔
        ∀ source target, LinksWithin pending source target → OnCycle pending target →
          OnCycle pending source) := by
  intro outcome pending
  have outcome_eq : outcome =
      Identifiers.byContent setting.mode setting.file row entries inherited :=
    congrArg Prod.fst (Expanding.identify_deterministic deterministic)
  rw [outcome_eq]
  refine ⟨?_, fun members refused => ?_⟩
  · rcases Identifiers.byContent_cases setting.mode setting.file row entries inherited with
      ⟨dangling, _, _, eq⟩ | ⟨sound, cyclic, _, eq⟩ | ⟨_, acyclic, _, eq, _⟩
    · simp [eq, dangling]
    · simp [eq, sound, pending, cyclic]
    · simp [eq, pending, acyclic]
  obtain ⟨ids, rest, settles, rfl⟩ := Identifiers.exists_settles_of_cycle refused
  have leads (symbol : String) :
      symbol ∈ rest.map (·.symbol) ↔ LeadsToCycle pending symbol := by
    constructor
    · intro member
      obtain ⟨entry, left, rfl⟩ := List.mem_map.mp member
      exact ((Identifiers.mem_rest_iff settles).mp left).2
    · intro leads
      obtain ⟨_, ⟨entry, _, isPending, _, rfl, _, _⟩, _⟩ := leads.exists_link
      exact List.mem_map_of_mem ((Identifiers.mem_rest_iff settles).mpr ⟨isPending, leads⟩)
  have ordered := settles.sublist.map (·.symbol)
  refine ⟨Identifiers.nodup_pending.sublist ordered,
    ordered.trans Identifiers.pending_sublist_declaredSymbols, leads, ?_⟩
  simp only [leads]
  exact LeadsToCycle.iff_onCycle

/-! ### Friends in a circle -/

/-- Ada and Bob know each other. Cid knows Ada, and nobody knows Cid. -/
def friendsEntries : List Entry :=
  [⟨"Person", "ada", [⟨.type, []⟩, ⟨.symbol "bob", ["knows"]⟩]⟩,
    ⟨"Person", "bob", [⟨.type, []⟩, ⟨.symbol "ada", ["knows"]⟩]⟩,
    ⟨"Person", "cid", [⟨.type, []⟩, ⟨.symbol "ada", ["knows"]⟩]⟩]

def friendsRow : Row :=
  ⟨⟨[]⟩, [], []⟩

/-- The error names Cid as well, since Cid leads to the cycle. -/
theorem cycle_members_friends :
    globalSetting.mode.isDeterministic = true ∧
    ((Expanding.identify globalSetting friendsEntries {} friendsRow none []).run {}).1 =
      .error (.cycle ["ada", "bob", "cid"]) ∧
    LeadsToCycle (·.IsPending friendsRow friendsEntries []) "cid" := by
  have refused :
      ((Expanding.identify globalSetting friendsEntries {} friendsRow none []).run {}).1 =
        .error (.cycle ["ada", "bob", "cid"]) := rfl
  obtain ⟨_, _, leads, _⟩ := (cycle_members globalSetting friendsEntries {} friendsRow none [] {}
    rfl).2 _ refused
  exact ⟨rfl, refused, (leads "cid").mp (by decide)⟩

/-- Cid is on no cycle, and yet a member of the error. -/
theorem not_onCycle_friends :
    ((Expanding.identify globalSetting friendsEntries {} friendsRow none []).run {}).1 =
      .error (.cycle ["ada", "bob", "cid"]) ∧
    ¬∀ symbol, symbol ∈ ["ada", "bob", "cid"] ↔
      OnCycle (·.IsPending friendsRow friendsEntries []) symbol := by
  refine ⟨rfl, fun members => ?_⟩
  have loop := (members "cid").mp (by decide)
  obtain ⟨_, _, entry, _, pending, _, _, _, link⟩ := Relation.TransGen.tail'_iff.mp loop
  have unknown : ∀ entry ∈ friendsEntries, "cid" ∉ entry.links := by decide
  exact unknown entry pending.mem link

end RowTriples
