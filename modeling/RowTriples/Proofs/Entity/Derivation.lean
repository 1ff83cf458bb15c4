import RowTriples.Proofs.Entity.Columns
import RowTriples.Proofs.Entity.Inherited
import RowTriples.Proofs.Template.Typed
/-!
# The order of bindings

The bindings of a scope derive their columns one after the other, and each sees the columns that
were derived before it. If neither of two neighbours reads the column of the other, both derive the
same values in either order. The columns then stand in another order, but they have different names,
so the row shows the same under every name. A template sees a row through the names of columns only,
so it comes to the same.
-/

namespace RowTriples

/-- Neither of two bindings reads the column that the other one derives. -/
structure NamedBinding.Independent (a b : NamedBinding) : Prop where
  left : b.name ∉ a.binding.inputs
  right : a.name ∉ b.binding.inputs

/-- Two templates that differ in the order of two neighbours among the bindings of a scope, neither
of which reads the column of the other. -/
inductive Template.Swapped : Template → Template → Prop where
  | here {entries : List Entry} {subtemplates : List (String × Iteration × Template)}
      (front : List NamedBinding) {a b : NamedBinding} {back : List NamedBinding}
      {options : Options} (independent : a.Independent b) :
      Swapped ⟨entries, subtemplates, front ++ a :: b :: back, options⟩
        ⟨entries, subtemplates, front ++ b :: a :: back, options⟩
  | inside {entries : List Entry} {bindings : List NamedBinding} {options : Options}
      (before : List (String × Iteration × Template)) {name : String} {iteration : Iteration}
      {inner inner' : Template} {after : List (String × Iteration × Template)}
      (swapped : Swapped inner inner') :
      Swapped ⟨entries, before ++ (name, iteration, inner) :: after, bindings, options⟩
        ⟨entries, before ++ (name, iteration, inner') :: after, bindings, options⟩

/-! ### Derived columns -/

section Derived

variable {row : Row} {names : List String} {front back bindings : List NamedBinding}
variable {a b : NamedBinding}

/-- A binding has the same value when a column that it does not read is derived before it. -/
theorem Binding.evaluate_bind {binding : Binding} {name : String} {value : Datum} {origin : Origin}
    (unread : name ∉ binding.inputs) :
    binding.evaluate (row.bind name value origin) = binding.evaluate row := by
  refine evaluate_congr fun other member => ?_
  rw [Row.get?_bind, if_neg]
  rintro rfl
  exact unread member

namespace Row

theorem derive_append : row.derive (front ++ back) = (row.derive front).derive back := by
  induction front generalizing row with
  | nil => rfl
  | cons first front ih => exact ih

theorem column?_derive_of_notMem {name : String} (new : name ∉ bindings.map (·.name)) :
    (row.derive bindings).column? name = row.column? name := by
  induction bindings generalizing row with
  | nil => rfl
  | cons first bindings ih =>
      rw [List.map_cons, List.mem_cons, not_or] at new
      rw [derive, ih new.2, column?_bind, if_neg (Ne.symm new.1)]

/-- A column that is not derived again has the value that its binding had when it was derived. -/
theorem column?_derive (new : b.name ∉ back.map (·.name)) :
    (row.derive (front ++ b :: back)).column? b.name =
      some ⟨b.name, b.binding.evaluate (row.derive front), .binding⟩ := by
  rw [derive_append, derive, column?_derive_of_notMem new, column?_bind, if_pos rfl]

theorem get?_derive (new : b.name ∉ back.map (·.name)) :
    (row.derive (front ++ b :: back)).get? b.name =
      some (b.binding.evaluate (row.derive front)) := by
  rw [get?, column?_derive new]

theorem origin?_derive (new : b.name ∉ back.map (·.name)) :
    (row.derive (front ++ b :: back)).origin? b.name = some .binding := by
  rw [origin?, column?_derive new, Option.map_some]

/-- Rows look alike under all names if the same columns are derived for one record. -/
theorem LooksLike.of_column? {row' : Row} (cells : ∀ name, row.cell? name = row'.cell? name)
    (columns : ∀ name, row.column? name = row'.column? name) : row.LooksLike names row' := by
  have shown (name : String) : row.get? name = row'.get? name := by
    rw [get?, get?, columns, cells]
  refine ⟨fun name _ => shown name, fun name => ?_, fun name _ => shown name⟩
  rw [origin?, origin?, columns]

/-- Columns of different names can be derived in either order. -/
theorem looksLike_bind_bind {name name' : String} (different : name ≠ name') (value value' : Datum)
    (origin origin' : Origin) :
    ((row.bind name value origin).bind name' value' origin').LooksLike names
      ((row.bind name' value' origin').bind name value origin) := by
  refine .of_column? (fun _ => rfl) fun other => ?_
  have apart : name' = other → name ≠ other := fun same same' => different (same'.trans same.symm)
  simp only [column?_bind]
  exact ite_ite_comm _ _ _ _ apart

/-- Bindings that do not read each other's columns derive the same in either order, and so do all
the bindings after them. -/
theorem looksLike_derive_swapped (independent : a.Independent b) (different : a.name ≠ b.name) :
    (row.derive (front ++ a :: b :: back)).LooksLike names
      (row.derive (front ++ b :: a :: back)) := by
  let before := row.derive front
  -- Under the inputs of the bindings after them the rows have to look alike as well.
  have alike : ((before.bind a.name (a.binding.evaluate before) .binding).bind b.name
        (b.binding.evaluate before) .binding).LooksLike (names ++ back.flatMap (·.binding.inputs))
      ((before.bind b.name (b.binding.evaluate before) .binding).bind a.name
        (a.binding.evaluate before) .binding) :=
    looksLike_bind_bind different _ _ _ _
  rw [derive_append, derive_append, derive, derive, derive, derive,
    Binding.evaluate_bind independent.left, Binding.evaluate_bind independent.right]
  refine (alike.derive fun binding member _ named => ?_).mono (List.subset_append_left _ _)
  exact List.mem_append_right _ (List.mem_flatMap.mpr ⟨binding, member, named⟩)

end Row

end Derived

/-! ### Templates -/

/-- Where bindings derive different columns, no binding derives a column of one before it again. -/
theorem Template.DerivesOnce.notMem {t : Template} (once : t.DerivesOnce)
    {front back : List NamedBinding} {b : NamedBinding} (split : t.bindings = front ++ b :: back) :
    b.name ∉ back.map (·.name) := by
  rw [DerivesOnce, split, List.map_append, List.nodup_append, List.map_cons, List.nodup_cons]
    at once
  exact once.2.1.1

namespace Template.Swapped

variable {t t' : Template}

/-- By induction on the place of the bindings: where they stand the scopes are alike, and a scope
around is composed of the meanings of its subtemplates. -/
theorem template_eq (setting : Setting) (swapped : t.Swapped t') (once : t.Everywhere DerivesOnce) :
    Expanding.template setting t = Expanding.template setting t' := by
  induction swapped with
  | @here entries subtemplates front a b back options independent =>
      obtain ⟨once, _⟩ := once
      have different : a.name ≠ b.name :=
        fun same => once.notMem rfl (List.mem_map.mpr ⟨b, List.mem_cons_self, same.symm⟩)
      let t : Template := ⟨entries, subtemplates, front ++ a :: b :: back, options⟩
      funext row inherited element
      have derived : (row.derive (front ++ a :: b :: back)).LooksLike t.columns
          (row.derive (front ++ b :: a :: back)) :=
        Row.looksLike_derive_swapped independent different
      exact Expanding.scope_congr derived
        (Expanding.columns_of_parts (t := t) fun part _ => Expanding.seesColumns setting part.2.2)
        fun _ member _ named => mem_columns_of_entry (t := t) member named
  | inside before _ ih =>
      obtain ⟨_, inside⟩ := once
      have inner := inside _ (List.mem_append_right _ List.mem_cons_self)
      simp only [Expanding.template, Expanding.subtemplatesOf_eq_map, List.map_append,
        List.map_cons, ih inner]

end Template.Swapped

/-- The order of bindings that do not read each other's columns does not matter. If two neighbours
among the bindings of a scope are exchanged, at whatever level, every row comes to the same in every
setting, and it takes the same from outside. In particular a binding does not depend on those after
it. In every scope of a row its column has the value that the binding has for the columns derived
before, and it has this value whatever other columns are derived after it. -/
theorem independent_bindings_commute (setting : Setting) {t : Template} (loaded : t.IsLoaded)
    (header : Header) (cells : List Datum) (progress : Progress) :
    (∀ t', t.Swapped t' →
      expandRow setting t header cells progress = expandRow setting t' header cells progress) ∧
    ∀ chain site, (Site.root t { header, cells }).follow? chain = some site →
      ∀ front b back, site.template.bindings = front ++ b :: back →
        site.derived.get? b.name = some (b.binding.evaluate (site.row.derive front)) ∧
        site.derived.origin? b.name = some .binding ∧
        ∀ back' : List NamedBinding, b.name ∉ back'.map (·.name) →
          (site.row.derive (front ++ b :: back')).get? b.name = site.derived.get? b.name := by
  refine ⟨fun t' swapped => ?_, fun chain site leads front b back split => ?_⟩
  · rw [expandRow, expandRow, Expanding.row, Expanding.row,
      swapped.template_eq setting loaded.derivesOnce]
  · have once : site.template.DerivesOnce :=
      (loaded.derivesOnce.of_follow? (Site.template_follow? leads)).here
    have new : b.name ∉ back.map (·.name) := once.notMem split
    rw [Site.derived, split, Row.get?_derive new]
    exact ⟨rfl, Row.origin?_derive new, fun back' new' => Row.get?_derive new'⟩

/-! ### Pets with tags -/

def labelDeclaration : String × Document :=
  ("label", .map [("FUNCTION", .text "UpCase"), ("DATA", .map [("Column", .text "animal")])])

def codeDeclaration : String × Document :=
  ("code", .map [("FUNCTION", .text "Concatenate"),
    ("DATA", .map [("ColumnA", .text "name"), ("ColumnB", .text "animal")])])

/-- An owner whose pets have tags, which are put together from labels and codes. -/
def tagsDocument (first second : String × Document) : Document :=
  .map [("TEMPLATE", .sequence [.sequence [.text "Owner", .map [("GENSYM", .text "owner"),
      ("SUBTEMPLATE_pets.GENSYM_pet", .text "keeps")]]]),
    ("SUBTEMPLATES", .map [("pets", .map [
      ("TEMPLATE", .sequence [.sequence [.text "Pet", .map [("GENSYM", .text "pet"),
        ("tag", .text "tag")]]]),
      ("BIND", .map [first, second, ("tag", .map [("FUNCTION", .text "Concatenate"),
        ("DATA", .map [("ColumnA", .text "label"), ("ColumnB", .text "code")])])]),
      ("ITERABLE", .sequence [.sequence [.text "pets", .text "animal"]])])])]

def labelBinding : NamedBinding :=
  ⟨"label", .changeCase "animal" .upper⟩

def codeBinding : NamedBinding :=
  ⟨"code", .concatenate "name" "animal"⟩

def tagBinding : NamedBinding :=
  ⟨"tag", .concatenate "label" "code"⟩

def tagsTemplate (first second : NamedBinding) : Template :=
  ⟨[⟨"Owner", "owner", [⟨.type, []⟩, ⟨.repeated "pets" "pet", ["keeps"]⟩]⟩],
    [("pets", ⟨"pets", "animal"⟩, ⟨[⟨"Pet", "pet", [⟨.type, []⟩, ⟨.column "tag", ["tag"]⟩]⟩], [],
      [first, second, tagBinding], {}⟩)], [], {}⟩

/-- Labels and codes can be declared in either order, and the second pet of the kennel has its code
whatever comes after. -/
theorem independent_bindings_commute_tags :
    let t := tagsTemplate labelBinding codeBinding
    let t' := tagsTemplate codeBinding labelBinding
    Template.ofDocument true (tagsDocument labelDeclaration codeDeclaration) = .ok t ∧
    Template.ofDocument true (tagsDocument codeDeclaration labelDeclaration) = .ok t' ∧
    t.Swapped t' ∧
    expandRow recordSetting t kennelRow.header kennelRow.cells {} =
      expandRow recordSetting t' kennelRow.header kennelRow.cells {} ∧
    ∃ site, (Site.root t kennelRow).follow? [⟨0, 1, 1⟩] = some site ∧
      site.derived.get? "code" = some (.text "AdaTom") := by
  intro t t'
  have loaded : Template.ofDocument true (tagsDocument labelDeclaration codeDeclaration) = .ok t :=
    rfl
  have swapped : t.Swapped t' :=
    .inside [] (.here [] ⟨by decide, by decide⟩)
  obtain ⟨commute, settled⟩ :=
    independent_bindings_commute recordSetting ⟨true, _, loaded⟩ kennelRow.header kennelRow.cells {}
  obtain ⟨code, _, _⟩ := settled [⟨0, 1, 1⟩] _ rfl [labelBinding] codeBinding [tagBinding] rfl
  exact ⟨loaded, rfl, swapped, commute t' swapped, _, rfl, code.trans rfl⟩

end RowTriples
