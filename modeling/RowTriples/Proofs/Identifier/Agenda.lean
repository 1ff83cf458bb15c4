import RowTriples.Proofs.Identifier.Links
/-!
# The agenda of the identification

The two parts of the identification by content are described by what they leave behind. Taking over
the supplied identifiers leaves exactly the pending entries. The agenda gives each of these its turn
when the entries that it links to have had theirs: at any time the entries with a turn are in such
an order, the counts are those of the links to the others, and the queue holds the entries whose
count is zero. So the identifier of an entry agrees with the final identifiers of its links, and the
entries that have no turn are those that wait for each other.
-/

namespace RowTriples

namespace Entry

variable {mode : Mode} {file : String} {row : Row} {ids ids' : Identifiers} {entry : Entry}

/-- The links in the content of an entry are those of its rules. -/
theorem link_mem_contentParts {target : String} :
    ContentPart.link target ∈ entry.contentParts row ↔ target ∈ entry.links := by
  simp only [contentParts, links, List.mem_cons, reduceCtorEq, List.mem_filterMap, false_or]
  refine exists_congr fun rule => and_congr_right fun _ => ?_
  split <;> split <;> simp_all

/-- Only the identifiers of the links matter. -/
theorem contentId_congr
    (agree : ∀ target ∈ entry.links, Entries.get? target ids = Entries.get? target ids') :
    entry.contentId mode file row ids = entry.contentId mode file row ids' := by
  have json : Identifiers.contentJson ids (entry.contentParts row) =
      Identifiers.contentJson ids' (entry.contentParts row) := by
    refine congrArg Json.array (List.map_congr_left ?_)
    intro part member
    cases part with
    | value value => rfl
    | link target => simp only [agree target (link_mem_contentParts.mp member)]
  simp only [contentId, Identifiers.contentText, json]

end Entry

namespace Identifiers

variable {mode : Mode} {file : String} {row : Row}

/-! ### Supplied identifiers -/

/-- The symbols keep the identifiers that they have and get those that columns supply. -/
theorem get?_takeBound {entries : List Entry} {ids : Identifiers} {pending : List Entry}
    (unsupplied : ∀ entry ∈ pending, row.boundId? entry.symbol = none) (name : String) :
    Entries.get? name (takeBound row entries ids pending).1 =
      (Entries.get? name ids).or
        (if name ∈ entries.map (·.symbol) then row.boundId? name else none) := by
  fun_induction takeBound row entries ids pending with
  | case1 ids pending => simp
  | case2 entry entries ids pending known ih =>
      rw [ih unsupplied]
      by_cases same : name = entry.symbol
      · subst same
        rcases Bool.or_eq_true_iff.mp known with has | waiting
        · obtain ⟨id, found⟩ := Option.isSome_iff_exists.mp has
          simp [found]
        · obtain ⟨other, member, eq⟩ := List.any_eq_true.mp waiting
          have none := unsupplied other member
          simp_all
      · simp [same]
  | case3 entry entries ids pending _ id bound ih =>
      rw [ih unsupplied, Entries.get?_put]
      by_cases same : entry.symbol = name
      · simp_all [Entries.has]
      · simp [same, Ne.symm same]
  | case4 entry entries ids pending _ unbound ih =>
      rw [ih (by simpa [or_imp, forall_and] using ⟨unsupplied, unbound⟩)]
      by_cases same : name = entry.symbol
      · simp_all
      · simp [same]

/-- What is left are the first declarations of the symbols without an identifier. -/
theorem mem_takeBound {entries : List Entry} {ids : Identifiers} {pending : List Entry}
    {entry : Entry} :
    entry ∈ (takeBound row entries ids pending).2 ↔ entry ∈ pending ∨
      (entries.find? (·.symbol = entry.symbol) = some entry ∧
        entry.symbol ∉ Entries.names ids ∧ entry.symbol ∉ pending.map (·.symbol) ∧
        row.boundId? entry.symbol = none) := by
  fun_induction takeBound row entries ids pending with
  | case1 ids pending => simp
  | case2 first entries ids pending known ih =>
      rw [ih]
      by_cases same : first.symbol = entry.symbol
      · have : entry.symbol ∈ Entries.names ids ∨ entry.symbol ∈ pending.map (·.symbol) := by
          simpa [Entries.has_iff, same] using known
        tauto
      · simp [same]
  | case3 first entries ids pending unknown id bound ih =>
      rw [ih]
      by_cases same : first.symbol = entry.symbol
      · simp_all
      · simp [same, Entries.names_put]
        split <;> simp [Ne.symm same]
  | case4 first entries ids pending unknown unbound ih =>
      rw [ih]
      by_cases same : first.symbol = entry.symbol
      · have : entry.symbol ∉ Entries.names ids ∧ entry.symbol ∉ pending.map (·.symbol) := by
          simpa [Entries.has_iff, same] using unknown
        rw [same] at unbound
        simp [same, this.1, this.2, unbound, eq_comm (a := entry)]
      · have : entry ≠ first := fun eq => same (congrArg Entry.symbol eq).symm
        simp [same, this, Ne.symm same]

theorem nodup_takeBound {entries : List Entry} {ids : Identifiers} {pending : List Entry}
    (nodup : (pending.map (·.symbol)).Nodup) :
    ((takeBound row entries ids pending).2.map (·.symbol)).Nodup := by
  fun_induction takeBound row entries ids pending with
  | case1 => exact nodup
  | case2 _ _ _ _ _ ih => exact ih nodup
  | case3 _ _ _ _ _ _ _ ih => exact ih nodup
  | case4 first entries ids pending unknown _ ih =>
      refine ih ?_
      simp only [Bool.or_eq_true, not_or, List.any_eq_true, not_exists, not_and,
        decide_eq_true_eq] at unknown
      simpa [List.nodup_append, nodup] using unknown.2

/-- The entries that are left in a scope are its pending ones. -/
theorem mem_pending_iff {entries : List Entry} {inherited : Identifiers} {entry : Entry} :
    entry ∈ (takeBound row entries inherited []).2 ↔ entry.IsPending row entries inherited := by
  rw [mem_takeBound, Row.boundId?_eq_none_iff]
  constructor
  · rintro (impossible | ⟨first, new, _, unsupplied⟩)
    · cases impossible
    · exact ⟨first, new, unsupplied⟩
  · rintro ⟨first, new, unsupplied⟩
    exact .inr ⟨first, new, List.not_mem_nil, unsupplied⟩

end Identifiers

/-! ### Counts of links -/

section Counts

variable {pending settled : List Entry} {entry : Entry} {target : String}

/-- The target of a link waits: it is pending and its entry has had no turn. -/
def Waits (pending settled : List Entry) (target : String) : Prop :=
  target ∈ pending.map (·.symbol) ∧ target ∉ settled.map (·.symbol)

instance : Decidable (Waits pending settled target) :=
  inferInstanceAs (Decidable (_ ∧ _))

def waitingLinks (pending settled : List Entry) (entry : Entry) : Nat :=
  entry.links.countP fun target => Waits pending settled target

theorem openLinks_eq (pending : List Entry) (entry : Entry) :
    Identifiers.openLinks pending entry = waitingLinks pending [] entry := by
  refine congrArg (List.countP · entry.links) (funext fun target => Bool.eq_iff_iff.mpr ?_)
  simp [Waits]

/-- When an entry has had its turn, the links to it wait no longer. -/
theorem waitingLinks_eq_add (member : entry ∈ pending)
    (unsettled : entry.symbol ∉ settled.map (·.symbol)) (other : Entry) :
    waitingLinks pending settled other =
      waitingLinks pending (settled ++ [entry]) other + other.links.count entry.symbol := by
  unfold waitingLinks
  induction other.links with
  | nil => rfl
  | cons target links ih =>
      have waits : Waits pending settled entry.symbol := ⟨List.mem_map_of_mem member, unsettled⟩
      by_cases same : target = entry.symbol
      · subst same
        have done : ¬Waits pending (settled ++ [entry]) entry.symbol := fun h => h.2 (by simp)
        rw [List.countP_cons_of_pos (by simpa using waits),
          List.countP_cons_of_neg (by simpa using done), List.count_cons_self, ih]
        rfl
      · have same_iff : Waits pending (settled ++ [entry]) target ↔
            Waits pending settled target := by
          simp [Waits, same]
        rw [List.countP_cons, List.countP_cons, List.count_cons_of_ne same, ih]
        simp only [same_iff]
        omega

theorem mem_dependents_iff {symbol : String} :
    entry ∈ Identifiers.dependents pending symbol ↔ entry ∈ pending ∧ symbol ∈ entry.links := by
  simp only [Identifiers.dependents, List.mem_flatMap, List.mem_replicate, ne_eq,
    List.count_eq_zero, not_not]
  constructor
  · rintro ⟨_, member, link, rfl⟩
    exact ⟨member, link⟩
  · rintro ⟨member, link⟩
    exact ⟨entry, member, link, rfl⟩

theorem count_dependents (nodup : pending.Nodup) (member : entry ∈ pending) (symbol : String) :
    (Identifiers.dependents pending symbol).count entry = entry.links.count symbol := by
  induction pending with
  | nil => cases member
  | cons first pending ih =>
      obtain ⟨new, nodup⟩ := List.nodup_cons.mp nodup
      rw [Identifiers.dependents, List.flatMap_cons, List.count_append, List.count_replicate]
      rcases List.mem_cons.mp member with rfl | member
      · have absent : entry ∉ Identifiers.dependents pending symbol := fun listed =>
          new (mem_dependents_iff.mp listed).1
        rw [if_pos (beq_self_eq_true entry)]
        exact congrArg _ (List.count_eq_zero.mpr absent)
      · have differs : first ≠ entry := fun same => new (same ▸ member)
        rw [if_neg (by simpa using differs), Nat.zero_add]
        exact ih nodup member

end Counts

/-! ### Turns -/

namespace Agenda

open Identifiers (dependents)

variable {identify : Identifiers → Entry → String} {pending settled released : List Entry}
variable {ids : Identifiers} {agenda : Agenda} {entry other : Entry} {ready : List Entry}

/-- Every entry of a list links, as far as it links to pending entries, to ones that stand before
it. -/
inductive IsOrdered (pending : List Entry) : List Entry → Prop where
  | nil : IsOrdered pending []
  | snoc {settled : List Entry} {entry : Entry} (ordered : IsOrdered pending settled)
      (links : ∀ target ∈ entry.links, ¬Waits pending settled target) :
      IsOrdered pending (settled ++ [entry])

namespace IsOrdered

/-- No entry of the list links to one that is not in it. -/
theorem not_waits (h : IsOrdered pending settled) (member : entry ∈ settled) {target : String}
    (link : target ∈ entry.links) : ¬Waits pending settled target := by
  induction h with
  | nil => cases member
  | @snoc settled last _ links ih =>
      rintro ⟨inside, unsettled⟩
      rw [List.map_append, List.mem_append, not_or] at unsettled
      rcases List.mem_append.mp member with member | member
      · exact ih member ⟨inside, unsettled.1⟩
      · obtain rfl := List.mem_singleton.mp member
        exact links target link ⟨inside, unsettled.1⟩

/-- Symbols each of which links to another one of them have no entry in the list: the first of their
entries would link to a later one. -/
theorem not_trapped (h : IsOrdered pending settled) (nodup : (pending.map (·.symbol)).Nodup)
    (inside : ∀ entry ∈ settled, entry ∈ pending) {trapped : String → Prop}
    (trap : ∀ symbol, trapped symbol →
      ∃ target, LinksWithin (· ∈ pending) symbol target ∧ trapped target)
    (member : entry ∈ settled) : ¬trapped entry.symbol := by
  induction h generalizing entry with
  | nil => cases member
  | @snoc settled last _ links ih =>
      have ih {entry : Entry} : entry ∈ settled → ¬trapped entry.symbol :=
        ih fun entry member => inside entry (List.mem_append_left _ member)
      rcases List.mem_append.mp member with member | member
      · exact ih member
      obtain rfl := List.mem_singleton.mp member
      intro caught
      obtain ⟨_, ⟨source, next, hs, hn, same, rfl, link⟩, caught'⟩ := trap _ caught
      obtain rfl : source = entry := List.inj_on_of_nodup_map nodup hs
        (inside entry (List.mem_append_right _ List.mem_cons_self)) same
      have settled := not_and_not_right.mp (links _ link) (List.mem_map_of_mem hn)
      obtain ⟨first, member, same⟩ := List.mem_map.mp settled
      exact ih member (same ▸ caught')

end IsOrdered

/-! ### One turn -/

/-- Of the identifiers that are known only those of its links matter for that of an entry. -/
def DependsOnLinks (identify : Identifiers → Entry → String) : Prop :=
  ∀ ids ids' entry, (∀ target ∈ entry.links, Entries.get? target ids = Entries.get? target ids') →
    identify ids entry = identify ids' entry

/-- What holds of the agenda of pending entries when some of them have had their turns and certain
links to these are still to be released. -/
structure IsSound (identify : Identifiers → Entry → String) (pending : List Entry)
    (ids : Identifiers) (settled released : List Entry) (agenda : Agenda) : Prop where
  ordered : IsOrdered pending settled
  inside : ∀ entry ∈ released, entry ∈ pending
  missing : ∀ entry ∈ pending,
    agenda.missingOf entry = waitingLinks pending settled entry + released.count entry
  queued : (settled ++ agenda.ready).Perm (pending.filter fun entry => agenda.missingOf entry = 0)
  untouched : ∀ name ∉ settled.map (·.symbol), Entries.get? name agenda.ids = Entries.get? name ids
  identified : ∀ entry ∈ settled,
    Entries.get? entry.symbol agenda.ids = some (identify agenda.ids entry)
  done : agenda.done = settled.length

/-- One more element satisfies the condition by which a list is filtered. -/
theorem perm_filter_snoc {α : Type} {xs ys : List α} {x : α} {p q : α → Bool} (nodup : xs.Nodup)
    (listed : ys.Perm (xs.filter p)) (member : x ∈ xs) (new : p x = false)
    (grown : ∀ y ∈ xs, q y = true ↔ p y = true ∨ y = x) : (ys ++ [x]).Perm (xs.filter q) := by
  have fresh : x ∉ ys := fun old => by
    rw [listed.mem_iff, List.mem_filter, new] at old
    cases old.2
  have nodup' : (ys ++ [x]).Nodup := List.nodup_append_comm.mp
    (List.nodup_cons.mpr ⟨fresh, listed.nodup_iff.mpr (nodup.filter p)⟩)
  refine (List.perm_ext_iff_of_nodup nodup' (nodup.filter q)).mpr fun y => ?_
  rw [List.mem_append, listed.mem_iff, List.mem_singleton, List.mem_filter, List.mem_filter]
  constructor
  · rintro (⟨inside, old⟩ | rfl)
    · exact ⟨inside, (grown y inside).mpr (.inl old)⟩
    · exact ⟨member, (grown y member).mpr (.inr rfl)⟩
  · rintro ⟨inside, satisfies⟩
    exact ((grown y inside).mp satisfies).imp_left fun old => ⟨inside, old⟩

theorem missingOf_release (nodup : (pending.map (·.symbol)).Nodup) (member : entry ∈ pending)
    (member' : other ∈ pending) : (agenda.release entry).missingOf other =
      if entry = other then agenda.missingOf other - 1 else agenda.missingOf other := by
  simp only [release, missingOf, Entries.get?_put]
  by_cases same : entry = other
  · rw [if_pos (congrArg _ same), if_pos same, same]
    rfl
  · rw [if_neg fun symbols => same (List.inj_on_of_nodup_map nodup member member' symbols),
      if_neg same]

/-- A released link is taken off its count, and an entry whose count comes to zero gets into the
queue. -/
theorem IsSound.release (h : IsSound identify pending ids settled (entry :: released) agenda)
    (nodup : (pending.map (·.symbol)).Nodup) :
    IsSound identify pending ids settled released (agenda.release entry) := by
  have here : entry ∈ pending := h.inside entry List.mem_cons_self
  have left : ∀ other ∈ pending, (agenda.release entry).missingOf other =
      agenda.missingOf other - (if entry = other then 1 else 0) := by
    intro other member
    rw [missingOf_release nodup here member]
    split <;> rfl
  have count (other : Entry) : (entry :: released).count other =
      released.count other + (if entry = other then 1 else 0) := by
    simp only [List.count_cons, beq_iff_eq]
  have positive : 0 < agenda.missingOf entry := by
    rw [h.missing entry here, count, if_pos rfl]
    omega
  have zero_iff : ∀ other ∈ pending, (agenda.release entry).missingOf other = 0 ↔
      agenda.missingOf other = 0 ∨ other = entry ∧ agenda.missingOf entry - 1 = 0 := by
    intro other member
    rw [left other member]
    by_cases same : entry = other
    · subst same
      simp only [if_pos, true_and]
      omega
    · simp [same, Ne.symm same]
  refine ⟨h.ordered, fun other member => h.inside other (List.mem_cons_of_mem _ member), ?_, ?_,
    h.untouched, h.identified, h.done⟩
  · intro other member
    rw [left other member, h.missing other member, count, ← Nat.add_assoc, Nat.add_sub_cancel]
  · have queue : (agenda.release entry).ready =
        if agenda.missingOf entry - 1 = 0 then agenda.ready ++ [entry] else agenda.ready := rfl
    split at queue
    next last =>
      rw [queue, ← List.append_assoc]
      refine perm_filter_snoc (nodup.of_map _) h.queued here (by simp [positive.ne']) ?_
      intro other member
      rw [decide_eq_true_eq, decide_eq_true_eq, zero_iff other member, and_iff_left last]
    next more =>
      rw [queue]
      refine h.queued.trans (.of_eq (List.filter_congr fun other member => ?_))
      rw [decide_eq_decide, zero_iff other member]
      simp [more]

theorem IsSound.foldl_release (h : IsSound identify pending ids settled released agenda)
    (nodup : (pending.map (·.symbol)).Nodup) :
    IsSound identify pending ids settled [] (released.foldl Agenda.release agenda) := by
  induction released generalizing agenda with
  | nil => exact h
  | cons entry released ih => exact ih (h.release nodup)

/-- The entry in front of the queue has its turn: all its links lead to entries that have had
theirs, so its identifier does not change any more. -/
theorem IsSound.turn (h : IsSound identify pending ids settled [] agenda)
    (queue : agenda.ready = entry :: ready) (nodup : (pending.map (·.symbol)).Nodup)
    (congr : DependsOnLinks identify) :
    IsSound identify pending ids (settled ++ [entry]) []
      (agenda.turn identify pending entry ready) := by
  have nodupPending : pending.Nodup := nodup.of_map _
  have listed : (settled ++ entry :: ready).Perm
      (pending.filter fun entry => agenda.missingOf entry = 0) := queue ▸ h.queued
  have mem_pending {other : Entry} (member : other ∈ settled ++ entry :: ready) : other ∈ pending :=
    (List.mem_filter.mp (listed.subset member)).1
  have here : entry ∈ pending := mem_pending (by simp)
  have fresh : entry ∉ settled := fun member =>
    (List.nodup_append.mp (listed.nodup_iff.mpr (nodupPending.filter _))).2.2 entry member entry
      List.mem_cons_self rfl
  have unsettled : entry.symbol ∉ settled.map (·.symbol) := by
    intro inside
    obtain ⟨other, member, same⟩ := List.mem_map.mp inside
    exact fresh (List.inj_on_of_nodup_map nodup (mem_pending (List.mem_append_left _ member)) here
      same ▸ member)
  have links : ∀ target ∈ entry.links, ¬Waits pending settled target := by
    have zero : agenda.missingOf entry = 0 := by
      simpa using (List.mem_filter.mp (listed.subset (by simp : entry ∈ _))).2
    rw [h.missing entry here, List.count_nil, Nat.add_zero, waitingLinks, List.countP_eq_zero]
      at zero
    simpa using zero
  have kept {target : String} (links : ¬Waits pending settled target) :
      Entries.get? target (Entries.put entry.symbol (identify agenda.ids entry) agenda.ids) =
        Entries.get? target agenda.ids := by
    rw [Entries.get?_put, if_neg]
    rintro rfl
    exact links ⟨List.mem_map_of_mem here, unsettled⟩
  refine IsSound.foldl_release ⟨h.ordered.snoc links, fun other member =>
    (mem_dependents_iff.mp member).1, ?_, ?_, ?_, ?_, ?_⟩ nodup
  · intro other member
    rw [count_dependents nodupPending member, ← waitingLinks_eq_add here unsettled]
    exact h.missing other member
  · rw [List.append_assoc]
    exact listed
  · intro name other
    rw [List.map_append, List.mem_append, not_or] at other
    rw [Entries.get?_put, if_neg fun same => other.2 (by simp [same]), h.untouched name other.1]
  · intro other member
    rcases List.mem_append.mp member with member | member
    · calc Entries.get? other.symbol _
        _ = Entries.get? other.symbol agenda.ids :=
            kept fun waits => waits.2 (List.mem_map_of_mem member)
        _ = some (identify agenda.ids other) := h.identified other member
        _ = some (identify _ other) := congrArg some <| congr _ _ _ fun target link =>
            (kept (h.ordered.not_waits member link)).symm
    · obtain rfl := List.mem_singleton.mp member
      rw [Entries.get?_put_self]
      exact congrArg some (congr _ _ _ fun target link => (kept (links target link)).symm)
  · rw [List.length_append, ← h.done]
    rfl

/-! ### All turns -/

theorem IsSound.start (nodup : (pending.map (·.symbol)).Nodup) :
    IsSound identify pending ids [] [] (.start pending ids) := by
  have names : Entries.names (pending.map fun entry =>
      (entry.symbol, Identifiers.openLinks pending entry)) = pending.map (·.symbol) := by
    rw [Entries.names, List.map_map]
    rfl
  have missing : ∀ entry ∈ pending,
      (Agenda.start pending ids).missingOf entry = Identifiers.openLinks pending entry := by
    intro entry member
    have found : Entries.get? entry.symbol (Agenda.start pending ids).missing =
        some (Identifiers.openLinks pending entry) :=
      Entries.get?_of_mem (names.symm ▸ nodup) (List.mem_map.mpr ⟨entry, member, rfl⟩)
    rw [missingOf, found, Option.getD_some]
  refine ⟨.nil, List.forall_mem_nil _, ?_, ?_, fun _ _ => rfl, List.forall_mem_nil _, rfl⟩
  · intro entry member
    rw [missing entry member, openLinks_eq]
    rfl
  · refine .of_eq (List.filter_congr fun entry member => ?_)
    rw [missing entry member]

/-- There is a turn for every entry that gets ready. -/
theorem IsSound.run (h : IsSound identify pending ids settled [] agenda)
    (nodup : (pending.map (·.symbol)).Nodup) (congr : DependsOnLinks identify) (turns : Nat) :
    ∃ settled', IsSound identify pending ids settled' [] (agenda.run identify pending turns) ∧
      (pending.length ≤ settled.length + turns →
        (agenda.run identify pending turns).ready = []) := by
  induction turns generalizing settled agenda with
  | zero =>
      refine ⟨settled, h, fun enough => ?_⟩
      have listed := h.queued.length_eq
      have bound := List.length_filter_le (fun entry => agenda.missingOf entry = 0) pending
      rw [List.length_append] at listed
      exact List.length_eq_zero_iff.mp (by omega : agenda.ready.length = 0)
  | succ turns ih =>
      rw [Agenda.run]
      split
      next queue => exact ⟨settled, h, fun _ => queue⟩
      next entry ready queue =>
        obtain ⟨settled', sound, finished⟩ := ih (h.turn queue nodup congr)
        refine ⟨settled', sound, fun enough => finished ?_⟩
        rw [List.length_append, List.length_singleton]
        omega

/-- What comes of pending entries: the identifiers that are known in the end, and the entries that
are left without one. These wait for each other. -/
structure Settles (identify : Identifiers → Entry → String) (pending : List Entry)
    (ids ids' : Identifiers) (rest : List Entry) : Prop where
  sublist : rest.Sublist pending
  untouched : ∀ name ∉ pending.map (·.symbol), Entries.get? name ids' = Entries.get? name ids
  identified : ∀ entry ∈ pending, entry ∉ rest →
    Entries.get? entry.symbol ids' = some (identify ids' entry)
  stuck : ∀ entry ∈ rest, ∃ other ∈ rest, other.symbol ∈ entry.links
  trapped : ∀ trapped : String → Prop,
    (∀ symbol, trapped symbol →
      ∃ target, LinksWithin (· ∈ pending) symbol target ∧ trapped target) →
      ∀ entry ∈ pending, trapped entry.symbol → entry ∈ rest

theorem mem_waiting_iff :
    entry ∈ agenda.waiting pending ↔ entry ∈ pending ∧ agenda.missingOf entry ≠ 0 := by
  rw [waiting, List.mem_filter, decide_eq_true_eq, Nat.pos_iff_ne_zero]

theorem IsSound.settles (h : IsSound identify pending ids settled [] agenda)
    (finished : agenda.ready = []) (nodup : (pending.map (·.symbol)).Nodup) :
    Settles identify pending ids agenda.ids (agenda.waiting pending) := by
  have mem_settled {entry : Entry} :
      entry ∈ settled ↔ entry ∈ pending ∧ agenda.missingOf entry = 0 := by
    have queued := h.queued
    rw [finished, List.append_nil] at queued
    rw [queued.mem_iff, List.mem_filter, decide_eq_true_eq]
  have mem_settled_of_not_waiting {entry : Entry} (member : entry ∈ pending)
      (identified : entry ∉ agenda.waiting pending) : entry ∈ settled :=
    mem_settled.mpr ⟨member, not_not.mp fun left => identified (mem_waiting_iff.mpr ⟨member, left⟩)⟩
  refine ⟨List.filter_sublist, fun name other => h.untouched name fun inside => ?_,
    fun entry member identified =>
      h.identified entry (mem_settled_of_not_waiting member identified),
    fun entry left => ?_, fun trapped trap entry member inside => ?_⟩
  · obtain ⟨entry, member, same⟩ := List.mem_map.mp inside
    exact other (List.mem_map.mpr ⟨entry, (mem_settled.mp member).1, same⟩)
  · obtain ⟨member, left⟩ := mem_waiting_iff.mp left
    rw [h.missing entry member, List.count_nil, Nat.add_zero, waitingLinks, ne_eq,
      List.countP_eq_zero] at left
    push Not at left
    obtain ⟨target, link, waits⟩ := left
    obtain ⟨inside, unsettled⟩ := of_decide_eq_true waits
    obtain ⟨other, otherMember, rfl⟩ := List.mem_map.mp inside
    refine ⟨other, mem_waiting_iff.mpr ⟨otherMember, fun zero => unsettled ?_⟩, link⟩
    exact List.mem_map_of_mem (mem_settled.mpr ⟨otherMember, zero⟩)
  · by_contra identified
    refine h.ordered.not_trapped nodup
      (fun entry member => (mem_settled.mp member).1) trap ?_ inside
    exact mem_settled_of_not_waiting member identified

/-- Some entry has no turn exactly if one is left waiting. -/
theorem IsSound.done_lt_iff (h : IsSound identify pending ids settled [] agenda)
    (finished : agenda.ready = []) :
    agenda.done < pending.length ↔ agenda.waiting pending ≠ [] := by
  have listed := h.queued.length_eq
  rw [finished, List.append_nil, ← h.done] at listed
  have all :=
    List.length_eq_length_filter_add (l := pending) fun entry => agenda.missingOf entry = 0
  have rest : (pending.filter fun entry => !decide (agenda.missingOf entry = 0)) =
      agenda.waiting pending := by
    refine List.filter_congr fun entry _ => ?_
    simp [Nat.pos_iff_ne_zero]
  rw [rest] at all
  rw [ne_eq, ← List.length_eq_zero_iff]
  omega

end Agenda

namespace Identifiers

variable {pending : List Entry} {ids : Identifiers}

/-- With a turn for every entry nothing that could be identified is left. -/
theorem identifyPending_settles (mode : Mode) (file : String) (row : Row)
    (nodup : (pending.map (·.symbol)).Nodup) :
    let agenda := identifyPending mode file row pending ids
    Agenda.Settles (Entry.contentId mode file row) pending ids agenda.ids (agenda.waiting pending) ∧
      (agenda.done < pending.length ↔ agenda.waiting pending ≠ []) := by
  intro agenda
  have congr : Agenda.DependsOnLinks (Entry.contentId mode file row) := fun _ _ _ agree =>
    Entry.contentId_congr agree
  obtain ⟨settled, sound, finished⟩ :=
    (Agenda.IsSound.start nodup).run nodup congr pending.length
  have finished : agenda.ready = [] := finished (by simp)
  exact ⟨sound.settles finished nodup, sound.done_lt_iff finished⟩

end Identifiers

end RowTriples
