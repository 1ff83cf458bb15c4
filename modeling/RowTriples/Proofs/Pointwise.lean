import Mathlib.Data.List.Forall2
/-!
# Lists that correspond element by element

What a list is turned into corresponds to it element by element. The correspondence is followed from
an element, on either side, to its counterpart. A traversal that may fail leaves such a pair of
lists whenever it does not.
-/

namespace RowTriples

section Correspondence

variable {α β : Type} {rel : α → β → Prop} {xs : List α} {ys : List β}

theorem exists_of_mem_left (h : List.Forall₂ rel xs ys) {x : α} (member : x ∈ xs) :
    ∃ y ∈ ys, rel x y := by
  induction h with
  | nil => cases member
  | @cons x' y _ _ related _ ih =>
      rcases List.mem_cons.mp member with rfl | member
      · exact ⟨y, List.mem_cons_self, related⟩
      · obtain ⟨y', member', related'⟩ := ih member
        exact ⟨y', List.mem_cons_of_mem y member', related'⟩

theorem exists_of_mem_right (h : List.Forall₂ rel xs ys) {y : β} (member : y ∈ ys) :
    ∃ x ∈ xs, rel x y := by
  obtain ⟨x, member, related⟩ := exists_of_mem_left h.flip member
  exact ⟨x, member, related⟩

/-- The counterpart of an element stands at the same place. -/
theorem exists_of_getElem?_left (h : List.Forall₂ rel xs ys) {i : Nat} {x : α}
    (found : xs[i]? = some x) : ∃ y, ys[i]? = some y ∧ rel x y := by
  obtain ⟨bound, rfl⟩ := List.getElem?_eq_some_iff.mp found
  have bound' : i < ys.length := h.length_eq ▸ bound
  exact ⟨ys[i], List.getElem?_eq_getElem bound', h.get bound bound'⟩

theorem exists_of_getElem?_right (h : List.Forall₂ rel xs ys) {i : Nat} {y : β}
    (found : ys[i]? = some y) : ∃ x, xs[i]? = some x ∧ rel x y := by
  obtain ⟨x, found, related⟩ := exists_of_getElem?_left h.flip found
  exact ⟨x, found, related⟩

/-- A list corresponds to what its parts correspond to. -/
theorem exists_of_append_left {x : α} {xs' : List α}
    (h : List.Forall₂ rel (xs ++ x :: xs') ys) :
    ∃ front y back, ys = front ++ y :: back ∧ List.Forall₂ rel xs front ∧ rel x y ∧
      List.Forall₂ rel xs' back := by
  induction xs generalizing ys with
  | nil =>
      cases h with
      | cons related others => exact ⟨[], _, _, rfl, .nil, related, others⟩
  | cons first xs ih =>
      cases h with
      | cons related others =>
          obtain ⟨front, y, back, rfl, before, here, after⟩ := ih others
          exact ⟨_ :: front, y, back, rfl, .cons related before, here, after⟩

/-- What is made of corresponding elements in the same way is put together to the same. -/
theorem flatMap_eq_of_forall₂ {γ : Type} {f : α → List γ} {g : β → List γ}
    (h : List.Forall₂ rel xs ys) (same : ∀ x y, rel x y → g y = f x) :
    ys.flatMap g = xs.flatMap f := by
  induction h with
  | nil => rfl
  | cons related _ ih => rw [List.flatMap_cons, List.flatMap_cons, same _ _ related, ih]

theorem filterMap_eq_of_forall₂ {γ : Type} {f : α → Option γ} {g : β → Option γ}
    (h : List.Forall₂ rel xs ys) (same : ∀ x y, rel x y → g y = f x) :
    ys.filterMap g = xs.filterMap f := by
  induction h with
  | nil => rfl
  | cons related _ ih => rw [List.filterMap_cons, List.filterMap_cons, same _ _ related, ih]

/-- If every element is a function of its counterpart, the list is the image of the other one. -/
theorem eq_map_of_forall₂ {f : β → α} (h : List.Forall₂ rel xs ys)
    (form : ∀ x ∈ xs, ∀ y, rel x y → x = f y) : xs = ys.map f := by
  induction h with
  | nil => rfl
  | cons related _ ih =>
      obtain ⟨here, others⟩ := List.forall_mem_cons.mp form
      rw [List.map_cons, ← here _ related, ← ih others]

/-- Elements of the list that are related to a counterpart may be related to it in another way,
too. -/
theorem forall₂_imp_of_mem {rel' : α → β → Prop} (h : List.Forall₂ rel xs ys)
    (through : ∀ x ∈ xs, ∀ y, rel x y → rel' x y) : List.Forall₂ rel' xs ys := by
  induction h with
  | nil => exact .nil
  | cons related _ ih =>
      obtain ⟨here, others⟩ := List.forall_mem_cons.mp through
      exact .cons (here _ related) (ih others)

theorem forall₂_replicate {x : α} {y : β} (related : rel x y) (n : Nat) :
    List.Forall₂ rel (List.replicate n x) (List.replicate n y) := by
  induction n with
  | zero => exact .nil
  | succ n ih => exact .cons related ih

/-- What corresponds to an element's counterpart corresponds to the element. -/
theorem forall₂_trans {γ : Type} {rel' : β → γ → Prop} {rel'' : α → γ → Prop} {zs : List γ}
    (h : List.Forall₂ rel xs ys) (h' : List.Forall₂ rel' ys zs)
    (through : ∀ x ∈ xs, ∀ y z, rel x y → rel' y z → rel'' x z) : List.Forall₂ rel'' xs zs := by
  induction h generalizing zs with
  | nil =>
      cases h'
      exact .nil
  | cons related _ ih =>
      cases h' with
      | cons related' others' =>
          obtain ⟨here, others⟩ := List.forall_mem_cons.mp through
          exact .cons (here _ _ related related') (ih others' others)

end Correspondence

/-! ### Traversals -/

section Traversal

variable {ε α β : Type}

theorem bind_eq_ok_iff {step : Except ε α} {next : α → Except ε β} {value : β} :
    step >>= next = .ok value ↔ ∃ middle, step = .ok middle ∧ next middle = .ok value := by
  cases step with
  | error cause => exact ⟨nofun, nofun⟩
  | ok middle =>
      constructor
      · intro h
        exact ⟨middle, rfl, h⟩
      · rintro ⟨_, h, h'⟩
        cases h
        exact h'

theorem map_eq_ok_iff {f : α → β} {step : Except ε α} {value : β} :
    f <$> step = .ok value ↔ ∃ x, step = .ok x ∧ value = f x := by
  cases step with
  | error cause => exact ⟨nofun, nofun⟩
  | ok x => simp [eq_comm]

theorem bind_eq_error_iff {step : Except ε α} {next : α → Except ε β} {cause : ε} :
    step >>= next = .error cause ↔
      step = .error cause ∨ ∃ middle, step = .ok middle ∧ next middle = .error cause := by
  cases step with
  | error cause' =>
      constructor
      · intro h
        cases h
        exact .inl rfl
      · rintro (h | ⟨_, h, _⟩)
        · cases h
          rfl
        · cases h
  | ok middle =>
      constructor
      · intro h
        exact .inr ⟨middle, rfl, h⟩
      · rintro (h | ⟨_, h, h'⟩)
        · cases h
        · cases h
          exact h'

theorem mapM_eq_ok_iff {f : α → Except ε β} {xs : List α} {ys : List β} :
    xs.mapM f = .ok ys ↔ List.Forall₂ (fun x y => f x = .ok y) xs ys := by
  induction xs generalizing ys with
  | nil => cases ys <;> simp [pure, Except.pure]
  | cons x xs ih =>
      rw [List.mapM_cons, bind_eq_ok_iff]
      simp only [bind_eq_ok_iff, ih]
      constructor
      · rintro ⟨y, head, ys', tail, h⟩
        cases h
        exact .cons head tail
      · rintro (_ | ⟨head, tail⟩)
        exact ⟨_, head, _, tail, rfl⟩

/-- Traversals with the same steps are the same. -/
theorem mapM_congr {m : Type → Type} [Monad m] [LawfulMonad m] {f g : α → m β} {xs : List α}
    (same : ∀ x ∈ xs, f x = g x) : xs.mapM f = xs.mapM g := by
  induction xs with
  | nil => rfl
  | cons x xs ih =>
      obtain ⟨head, tail⟩ := List.forall_mem_cons.mp same
      rw [List.mapM_cons, List.mapM_cons, head, ih tail]

theorem forM_eq_ok_iff {f : α → Except ε PUnit} {xs : List α} :
    xs.forM f = .ok () ↔ ∀ x ∈ xs, f x = .ok () := by
  induction xs with
  | nil => simp [List.forM, pure, Except.pure]
  | cons x xs ih =>
      change (f x >>= fun _ => xs.forM f) = .ok () ↔ _
      rw [bind_eq_ok_iff]
      simp only [ih, List.forall_mem_cons]
      constructor
      · rintro ⟨_, head, tail⟩
        exact ⟨head, tail⟩
      · rintro ⟨head, tail⟩
        exact ⟨_, head, tail⟩

end Traversal

end RowTriples
