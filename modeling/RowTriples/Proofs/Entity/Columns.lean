import RowTriples.Proofs.Entity.WellLinked
import RowTriples.Proofs.Identifier.Alike
/-!
# The columns that a template sees

A template names the columns of a record that it takes something from: those of its data rules,
those that it goes through for repetitions, and the inputs of its bindings, at every level. It sees
a record through these columns and through nothing else. The columns that are derived on the way are
the same for two records that look alike, so by induction everything that is computed from them is
the same as well: the identifiers, the queries, the facts, and whatever keeps the row from being
expanded.
-/

namespace RowTriples

open Expanding

/-! ### Names of columns -/

def Entry.columns (entry : Entry) : List String :=
  entry.columnRules.map Prod.fst

namespace Template

mutual

/-- The columns that a template names, at every level. -/
def columns : Template → List String
  | ⟨entries, subtemplates, bindings, _⟩ =>
    entries.flatMap Entry.columns ++ bindings.flatMap (·.binding.inputs) ++ columnsOf subtemplates

/-- The columns that subtemplates are repeated for and those that they name. -/
def columnsOf : List (String × Iteration × Template) → List String
  | [] => []
  | (_, iteration, inner) :: others => iteration.source :: columns inner ++ columnsOf others

end

variable {t : Template}

theorem mem_columns_of_entry {entry : Entry} {name : String} (member : entry ∈ t.entries)
    (named : name ∈ entry.columns) : name ∈ t.columns := by
  obtain ⟨entries, subtemplates, bindings, options⟩ := t
  rw [columns, List.mem_append, List.mem_append]
  exact .inl (.inl (List.mem_flatMap.mpr ⟨entry, member, named⟩))

theorem mem_columns_of_binding {binding : NamedBinding} {name : String}
    (member : binding ∈ t.bindings) (named : name ∈ binding.binding.inputs) :
    name ∈ t.columns := by
  obtain ⟨entries, subtemplates, bindings, options⟩ := t
  rw [columns, List.mem_append, List.mem_append]
  exact .inl (.inr (List.mem_flatMap.mpr ⟨binding, member, named⟩))

theorem mem_columns_of_part {part : String × Iteration × Template} {name : String}
    (member : part ∈ t.subtemplates)
    (named : name = part.2.1.source ∨ name ∈ part.2.2.columns) : name ∈ t.columns := by
  have listed : ∀ parts : List (String × Iteration × Template), part ∈ parts →
      name ∈ columnsOf parts := by
    intro parts
    induction parts with
    | nil => exact nofun
    | cons head parts ih =>
        intro member
        obtain ⟨_, iteration, inner⟩ := head
        rw [columnsOf, List.mem_append, List.mem_cons]
        rcases List.mem_cons.mp member with rfl | member
        · exact .inl named
        · exact .inr (ih member)
  obtain ⟨entries, subtemplates, bindings, options⟩ := t
  rw [columns, List.mem_append]
  exact .inr (listed _ member)

end Template

/-! ### Rows that look alike -/

/-- The rows show the same under the given names, and the same columns are derived for both. -/
structure Row.LooksLike (names : List String) (row row' : Row) : Prop where
  named : ∀ name ∈ names, row.get? name = row'.get? name
  origins : ∀ name, row.origin? name = row'.origin? name
  derived : ∀ name, row.origin? name ≠ none → row.get? name = row'.get? name

namespace Row.LooksLike

variable {names names' : List String} {row row' : Row}

theorem mono (h : row.LooksLike names row') (sub : names' ⊆ names) : row.LooksLike names' row' :=
  ⟨fun name member => h.named name (sub member), h.origins, h.derived⟩

/-- Rows keep looking alike when the same column is derived for both. -/
theorem bind (h : row.LooksLike names row') (name : String) (value : Datum) (origin : Origin) :
    (row.bind name value origin).LooksLike names (row'.bind name value origin) := by
  refine ⟨?_, ?_, ?_⟩
  · intro other member
    rw [Row.get?_bind, Row.get?_bind, h.named other member]
  · intro other
    rw [Row.origin?_bind, Row.origin?_bind, h.origins other]
  · intro other visible
    rw [Row.origin?_bind] at visible
    rw [Row.get?_bind, Row.get?_bind]
    by_cases same : name = other
    · rw [if_pos same, if_pos same]
    · rw [if_neg same] at visible
      rw [if_neg same, if_neg same, h.derived other visible]

theorem values (h : row.LooksLike names row') {name : String} (member : name ∈ names) :
    row.values name = row'.values name := by
  rw [Row.values, Row.values, h.named name member]

/-- What a column supplies for a symbol is derived, so it is the same under every name. -/
theorem boundId? (h : row.LooksLike names row') (symbol : String) :
    row.boundId? symbol = row'.boundId? symbol := by
  rw [Row.boundId?, Row.boundId?, ← h.origins symbol]
  by_cases supplied : row.origin? symbol = some .binding
  · rw [if_pos supplied, if_pos supplied, h.derived symbol (by simp [supplied])]
  · rw [if_neg supplied, if_neg supplied]

end Row.LooksLike

/-- A binding looks at its inputs only. -/
theorem Binding.evaluate_congr {binding : Binding} {row row' : Row}
    (inputs : ∀ name ∈ binding.inputs, row.get? name = row'.get? name) :
    binding.evaluate row = binding.evaluate row' := by
  have text : ∀ name ∈ binding.inputs, row.columnText? name = row'.columnText? name := by
    intro name member
    rw [Row.columnText?, Row.columnText?, inputs name member]
  refine congrArg (Option.getD · Datum.null) ?_
  cases binding with
  | point latitude longitude =>
      obtain ⟨first, second⟩ : _ ∧ _ := by simpa [Binding.inputs] using text
      rw [value?, value?, first, second]
  | concatenate first second =>
      obtain ⟨first, second⟩ : _ ∧ _ := by simpa [Binding.inputs] using text
      rw [value?, value?, first, second]
  | join columns delimiter =>
      have texts : columns.mapM row.columnText? = columns.mapM row'.columnText? := mapM_congr text
      rw [value?, value?, texts]
  | fill fields columns =>
      have values : ∀ column ∈ columns, (do return (column.1, ← row.get? column.2)) =
          (do return (column.1, ← row'.get? column.2) : Option (String × Datum)) := by
        intro column member
        rw [inputs column.2 (List.mem_map_of_mem member)]
      rw [value?, value?, mapM_congr values]
  | shift column seconds =>
      rw [value?, value?, inputs column List.mem_cons_self]
  | constant value => rfl
  | pairedPoint column => rw [value?, value?, text column List.mem_cons_self]
  | buffer column => rw [value?, value?, text column List.mem_cons_self]
  | contentId column => rw [value?, value?, text column List.mem_cons_self]
  | split column => rw [value?, value?, text column List.mem_cons_self]
  | equals column => rw [value?, value?, text column List.mem_cons_self]
  | replace column => rw [value?, value?, text column List.mem_cons_self]
  | changeCase column => rw [value?, value?, text column List.mem_cons_self]
  | unixTime column => rw [value?, value?, text column List.mem_cons_self]

namespace Row.LooksLike

variable {names : List String} {row row' : Row}

/-- Bindings derive the same columns for rows that look alike under their inputs. -/
theorem derive {bindings : List NamedBinding} (h : row.LooksLike names row')
    (inputs : ∀ binding ∈ bindings, binding.binding.inputs ⊆ names) :
    (row.derive bindings).LooksLike names (row'.derive bindings) := by
  induction bindings generalizing row row' with
  | nil => exact h
  | cons first bindings ih =>
      obtain ⟨here, others⟩ := List.forall_mem_cons.mp inputs
      have same : first.binding.evaluate row = first.binding.evaluate row' :=
        Binding.evaluate_congr fun name member => h.named name (here member)
      rw [Row.derive, Row.derive, same]
      exact ih (h.bind _ _ _) others

/-- An entry has the same content in rows that look alike under its columns. -/
theorem alike {entry : Entry} (h : row.LooksLike names row') (columns : entry.columns ⊆ names) :
    entry.Alike row row' entry := by
  refine ⟨rfl, congrArg (List.cons _) (List.filterMap_congr ?_)⟩
  intro rule member
  cases target : rule.target with
  | column name =>
      have named : name ∈ entry.columns :=
        List.mem_map.mpr ⟨(name, rule), Entry.mem_columnRules_iff.mpr ⟨member, target⟩, rfl⟩
      simp only [h.named name (columns named)]
  | type => rfl
  | symbol => rfl
  | repeated => rfl

end Row.LooksLike

/-! ### Expansions of rows that look alike -/

namespace Expanding

variable {setting : Setting} {options : Options} {names : List String} {row row' : Row}
variable {element : Option Nat} {ids inherited : Identifiers} {entries : List Entry}

theorem positionalId_congr (h : row.LooksLike names row') {symbol : String} :
    positionalId setting options row element symbol =
      positionalId setting options row' element symbol := by
  rw [positionalId, positionalId, IdSource.of, IdSource.of, h.boundId? symbol]

theorem positionalIds_congr (h : row.LooksLike names row') {symbols : List String} :
    positionalIds setting options row element symbols ids =
      positionalIds setting options row' element symbols ids := by
  induction symbols generalizing ids with
  | nil => rfl
  | cons symbol symbols ih =>
      rw [positionalIds, positionalIds, positionalId_congr h]
      simp only [ih]

theorem identify_congr (h : row.LooksLike names row')
    (columns : ∀ entry ∈ entries, entry.columns ⊆ names) :
    identify setting entries options row element inherited =
      identify setting entries options row' element inherited := by
  have alike : List.Forall₂ (Entry.Alike row row') entries entries :=
    List.forall₂_same.mpr fun entry member => h.alike (columns entry member)
  rw [identify, identify, Identifiers.byContent_congr h.boundId? alike, positionalIds_congr h]

theorem addressQuery?_congr (h : row.LooksLike names row') {vocabulary : Vocabulary} {entry : Entry}
    (columns : entry.columns ⊆ names) :
    addressQuery? vocabulary options row entry = addressQuery? vocabulary options row' entry := by
  have fields : addressFields vocabulary row entry = addressFields vocabulary row' entry := by
    refine List.filterMap_congr ?_
    rintro ⟨name, rule⟩ member
    simp only [h.named name (columns (List.mem_map_of_mem member))]
  rw [addressQuery?, addressQuery?, fields]

theorem lookUpAll_congr (h : row.LooksLike names row')
    (columns : ∀ entry ∈ entries, entry.columns ⊆ names) :
    lookUpAll setting options row ids entries = lookUpAll setting options row' ids entries := by
  induction entries with
  | nil => rfl
  | cons entry entries ih =>
      obtain ⟨here, others⟩ := List.forall_mem_cons.mp columns
      rw [lookUpAll, lookUpAll, addressQuery?_congr h here, ih others]

/-- Templates expand alike for rows that look alike under the columns that they name. -/
def SeesColumns (setting : Setting) (t : Template) : Prop :=
  ∀ row row' inherited element, row.LooksLike t.columns row' →
    template setting t row inherited element = template setting t row' inherited element

theorem repeatFor_congr (h : row.LooksLike names row') {subtemplate symbol variableName : String}
    {meaning : Meaning} {i : Nat} {values : List Datum}
    (sees : ∀ value seed element,
      meaning (row.bind variableName value .iteration) seed element =
        meaning (row'.bind variableName value .iteration) seed element) :
    repeatFor setting options row ids subtemplate symbol variableName meaning i values =
      repeatFor setting options row' ids subtemplate symbol variableName meaning i values := by
  induction values generalizing i with
  | nil => rfl
  | cons value values ih =>
      have seeds : seedFor setting options (row.bind variableName value .iteration) ids symbol i =
          seedFor setting options (row'.bind variableName value .iteration) ids symbol i := by
        rw [seedFor, seedFor, positionalId_congr (h.bind variableName value .iteration)]
      rw [repeatFor_cons, repeatFor_cons, seeds]
      simp only [sees, ih]

variable {subtemplates : List (String × Iteration × Template)} {entry : Entry}

theorem fact_congr (h : row.LooksLike names row')
    (inside : ∀ part ∈ subtemplates, part.2.1.source ∈ names ∧ part.2.2.columns ⊆ names ∧
      SeesColumns setting part.2.2)
    {rule : Rule} (member : rule ∈ entry.rules) (columns : entry.columns ⊆ names) :
    fact setting options row ids (subtemplatesOf setting subtemplates) entry rule =
      fact setting options row' ids (subtemplatesOf setting subtemplates) entry rule := by
  cases target : rule.target with
  | type => simp only [fact, target]
  | symbol name => simp only [fact, target]
  | column name =>
      have named : name ∈ entry.columns :=
        List.mem_map.mpr ⟨(name, rule), Entry.mem_columnRules_iff.mpr ⟨member, target⟩, rfl⟩
      simp only [fact, target, h.values (columns named)]
  | repeated name symbol =>
      simp only [fact, target, lookup_subtemplatesOf]
      cases found : subtemplates.lookup name with
      | none => rfl
      | some part =>
          obtain ⟨source, within, sees⟩ := inside _ (mem_of_lookup found)
          simp only [Option.map_some]
          rw [h.values source, repeatFor_congr h]
          intro value seed element
          exact sees _ _ seed element ((h.mono within).bind _ _ _)

theorem facts_congr (h : row.LooksLike names row')
    (inside : ∀ part ∈ subtemplates, part.2.1.source ∈ names ∧ part.2.2.columns ⊆ names ∧
      SeesColumns setting part.2.2)
    {rules : List Rule} (within : rules ⊆ entry.rules) (columns : entry.columns ⊆ names) :
    facts setting options row ids (subtemplatesOf setting subtemplates) entry rules =
      facts setting options row' ids (subtemplatesOf setting subtemplates) entry rules := by
  induction rules with
  | nil => rfl
  | cons rule rules ih =>
      obtain ⟨here, others⟩ := List.cons_subset.mp within
      rw [facts, facts, fact_congr h inside here columns, ih others]

theorem entities_congr (h : row.LooksLike names row')
    (inside : ∀ part ∈ subtemplates, part.2.1.source ∈ names ∧ part.2.2.columns ⊆ names ∧
      SeesColumns setting part.2.2)
    (columns : ∀ entry ∈ entries, entry.columns ⊆ names) :
    entities setting options row ids (subtemplatesOf setting subtemplates) entries =
      entities setting options row' ids (subtemplatesOf setting subtemplates) entries := by
  induction entries with
  | nil => rfl
  | cons entry entries ih =>
      obtain ⟨here, others⟩ := List.forall_mem_cons.mp columns
      rw [entities, entities, facts_congr h inside (List.Subset.refl _) here, ih others]

/-- Scopes are alike for rows whose bindings derive columns that look alike, and only the columns
that are derived matter, not the bindings. -/
theorem scope_congr {bindings bindings' : List NamedBinding}
    (h : (row.derive bindings).LooksLike names (row'.derive bindings'))
    (inside : ∀ part ∈ subtemplates, part.2.1.source ∈ names ∧ part.2.2.columns ⊆ names ∧
      SeesColumns setting part.2.2)
    (columns : ∀ entry ∈ entries, entry.columns ⊆ names) :
    scope setting entries bindings options (subtemplatesOf setting subtemplates) row inherited
        element =
      scope setting entries bindings' options (subtemplatesOf setting subtemplates) row' inherited
        element := by
  simp only [scope, identify_congr h columns, lookUpAll_congr h columns,
    entities_congr h inside columns]

theorem columns_of_parts {t : Template}
    (sees : ∀ part ∈ t.subtemplates, SeesColumns setting part.2.2) :
    ∀ part ∈ t.subtemplates, part.2.1.source ∈ t.columns ∧ part.2.2.columns ⊆ t.columns ∧
      SeesColumns setting part.2.2 :=
  fun part member => ⟨Template.mem_columns_of_part member (.inl rfl),
    fun _ named => Template.mem_columns_of_part member (.inr named), sees part member⟩

/-- By induction on the template: its subtemplates see their rows through the columns that they
name, and these are among its own. -/
theorem seesColumns (setting : Setting) (t : Template) : SeesColumns setting t := by
  induction t using Template.nested with
  | step t inside =>
      intro row row' inherited element h
      have derived : (row.derive t.bindings).LooksLike t.columns (row'.derive t.bindings) :=
        h.derive fun _ member _ named => Template.mem_columns_of_binding member named
      have columns : ∀ entry ∈ t.entries, entry.columns ⊆ t.columns :=
        fun _ member _ named => Template.mem_columns_of_entry member named
      have parts := columns_of_parts inside
      obtain ⟨entries, subtemplates, bindings, options⟩ := t
      exact scope_congr derived parts columns

end Expanding

/-! ### Tables -/

/-- The record with the given columns: their names make the header, and each has a cell. -/
def Row.ofColumns (columns : List (String × Datum)) : Row :=
  ⟨⟨columns.map Prod.fst⟩, columns.map Prod.snd, []⟩

/-- The last column of a name counts. -/
theorem Row.get?_ofColumns (columns : List (String × Datum)) (name : String) :
    (Row.ofColumns columns).get? name =
      (columns.reverse.find? (·.1 = name)).map Prod.snd := by
  change ((lastIndex? name (columns.map Prod.fst)).bind ((columns.map Prod.snd)[·]?)) = _
  induction columns with
  | nil => rfl
  | cons column columns ih =>
      rw [List.reverse_cons, List.find?_append, List.map_cons, List.map_cons, lastIndex?]
      cases later : lastIndex? name (columns.map Prod.fst) with
      | some i =>
          obtain ⟨inside, _⟩ := List.getElem?_eq_some_iff.mp (last_of_lastIndex? later).1
          rw [List.length_map] at inside
          rw [later, Option.bind_some, List.getElem?_eq_getElem (by simpa using inside)] at ih
          obtain ⟨found, eq, _⟩ := Option.map_eq_some_iff.mp ih.symm
          rw [eq, Option.some_or, ← eq, ← ih, Option.bind_some, List.getElem?_cons_succ,
            List.getElem?_eq_getElem]
      | none =>
          rw [later, Option.bind_none, eq_comm, Option.map_eq_none_iff] at ih
          rw [ih]
          by_cases same : column.1 = name <;> simp [same]

/-- Where names are not repeated, a name has one column. -/
theorem find?_name_iff {columns : List (String × Datum)} (nodup : (columns.map Prod.fst).Nodup)
    {name : String} {column : String × Datum} :
    columns.find? (·.1 = name) = some column ↔ column ∈ columns ∧ column.1 = name := by
  constructor
  · intro found
    exact ⟨List.mem_of_find?_eq_some found, by simpa using List.find?_some found⟩
  · rintro ⟨member, rfl⟩
    obtain ⟨first, found⟩ := Option.isSome_iff_exists.mp
      (List.find?_isSome.mpr ⟨column, member, decide_eq_true rfl⟩ :
        (columns.find? (·.1 = column.1)).isSome = true)
    have same : first.1 = column.1 := by simpa using List.find?_some found
    rw [found, List.inj_on_of_nodup_map nodup (List.mem_of_find?_eq_some found) member same]

/-- A row is expanded from the columns that its template names, and from nothing else. Two records
that show the same in these columns, under whatever headers, expand to the same statements and
diagnostics or fail with the same error, and they take the same from outside. So columns that the
template does not name can be added, removed or changed, even if they are called like a symbol; and
columns can be put in another order if the template names none of those that occur twice. -/
theorem expandRow_of_columns (setting : Setting) (t : Template) (progress : Progress) :
    (∀ (header header' : Header) (cells cells' : List Datum),
      (∀ name ∈ t.columns, Row.get? { header, cells } name =
        Row.get? { header := header', cells := cells' } name) →
      expandRow setting t header cells progress = expandRow setting t header' cells' progress) ∧
    ∀ columns columns' : List (String × Datum),
      let named := fun columns : List (String × Datum) => columns.filter (·.1 ∈ t.columns)
      (named columns = named columns' ∨
        ((named columns).Perm (named columns') ∧ ((named columns).map Prod.fst).Nodup)) →
      expandRow setting t (Row.ofColumns columns).header (Row.ofColumns columns).cells progress =
        expandRow setting t (Row.ofColumns columns').header (Row.ofColumns columns').cells
          progress := by
  have seen (header header' : Header) (cells cells' : List Datum)
      (same : ∀ name ∈ t.columns, Row.get? { header, cells } name =
        Row.get? { header := header', cells := cells' } name) :
      expandRow setting t header cells progress = expandRow setting t header' cells' progress := by
    have alike : Row.LooksLike t.columns { header, cells } { header := header', cells := cells' } :=
      ⟨same, fun _ => rfl, fun _ visible => absurd rfl visible⟩
    rw [expandRow, expandRow, Expanding.row, Expanding.row,
      Expanding.seesColumns setting t _ _ [] none alike]
  refine ⟨seen, ?_⟩
  intro columns columns' named rearranged
  apply seen
  intro name member
  have kept (columns : List (String × Datum)) : columns.reverse.find? (·.1 = name) =
      (named columns).reverse.find? (·.1 = name) := by
    rw [← List.filter_reverse, List.find?_filter]
    congr 1
    funext column
    by_cases same : column.1 = name <;> simp [same, member]
  change (Row.ofColumns columns).get? name = (Row.ofColumns columns').get? name
  rw [Row.get?_ofColumns, Row.get?_ofColumns, kept columns, kept columns']
  rcases rearranged with same | ⟨perm, nodup⟩
  · rw [same]
  · have nodup' : ((named columns').map Prod.fst).Nodup := (perm.map _).nodup_iff.mp nodup
    refine congrArg _ (Option.ext fun column => ?_)
    rw [find?_name_iff (by simpa using nodup), find?_name_iff (by simpa using nodup'),
      List.mem_reverse, List.mem_reverse, perm.mem_iff]

def kennelColumns : List (String × Datum) :=
  [("name", .text "Ada"), ("pets", .list [.text "Rex", .text "Tom"])]

/-- The same columns in another order, with one between them that is called like a symbol. -/
def rearrangedColumns : List (String × Datum) :=
  [("pets", .list [.text "Rex", .text "Tom"]), ("owner", .text "Eve"), ("name", .text "Ada")]

/-- The row of the kennel comes to the same under a header that names a column twice, the last of
which counts, and with its columns rearranged. -/
theorem expandRow_of_columns_kennel :
    let kennel := Row.ofColumns kennelColumns
    let repeated := Row.ofColumns (("name", .text "Eve") :: kennelColumns.reverse)
    let named := fun columns : List (String × Datum) =>
      columns.filter (·.1 ∈ kennelTemplate.columns)
    (∀ name ∈ kennelTemplate.columns, kennel.get? name = repeated.get? name) ∧
    (named kennelColumns).Perm (named rearrangedColumns) ∧
    ((named kennelColumns).map Prod.fst).Nodup ∧
    expandRow globalSetting kennelTemplate kennel.header kennel.cells {} =
      expandRow globalSetting kennelTemplate repeated.header repeated.cells {} ∧
    expandRow globalSetting kennelTemplate kennel.header kennel.cells {} =
      expandRow globalSetting kennelTemplate (Row.ofColumns rearrangedColumns).header
        (Row.ofColumns rearrangedColumns).cells {} := by
  intro kennel repeated named
  have columns : kennelTemplate.columns = ["name", "pets"] := rfl
  have seen : ∀ name ∈ kennelTemplate.columns, kennel.get? name = repeated.get? name := by
    rw [columns]
    intro name member
    rcases List.mem_cons.mp member with rfl | member
    · rfl
    · obtain rfl := List.mem_singleton.mp member
      rfl
  have moved : (named kennelColumns).Perm (named rearrangedColumns) := by
    simp only [named, columns]
    exact .swap _ _ _
  have nodup : ((named kennelColumns).map Prod.fst).Nodup := by
    simp only [named, columns]
    decide
  obtain ⟨same, rearranged⟩ := expandRow_of_columns globalSetting kennelTemplate {}
  exact ⟨seen, moved, nodup, same _ _ _ _ seen, rearranged _ _ (.inr ⟨moved, nodup⟩)⟩

end RowTriples
