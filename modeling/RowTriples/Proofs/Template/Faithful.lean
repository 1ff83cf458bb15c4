import RowTriples.Proofs.Document.OfJson
import RowTriples.Proofs.Template.Keys
import RowTriples.Proofs.Template.Typed
/-!
# Faithful loading

What a loaded template says is what its document says, at every level. Entries, rules and bindings
stand in the order of the document, each coming from one declaration. The rule for the class of an
entry stands where its symbol is declared. A repetition is for the first pair that its document
gives. The options of a scope are those of the nearest document, from its own outwards, that has
any; fields that are missing there have their defaults.

A document is a JSON value in which no object repeats a name. Its records may be objects or
sequences of their fields.
-/

namespace RowTriples

/-! ### What documents say -/

/-- The rule for a property of an entry: its key and its value tell the target and the
predicates. -/
inductive Rule.WrittenAs : String × Json → Rule → Prop where
  | type {symbol : String} : WrittenAs ("GENSYM", .string symbol) ⟨.type, []⟩
  | one {key predicate : String} {target : Target} (other : key ≠ "GENSYM")
      (denotes : target.WrittenAs key) : WrittenAs (key, .string predicate) ⟨target, [predicate]⟩
  | several {key : String} {predicates : List String} {target : Target} (other : key ≠ "GENSYM")
      (denotes : target.WrittenAs key) :
      WrittenAs (key, .array (predicates.map .string)) ⟨target, predicates⟩

/-- The entry is declared with the given class and properties. It has one rule for each of them, and
one for its class, which stands where the symbol is declared. -/
structure Entry.WrittenAs (declared : String × Entries Json) (entry : Entry) : Prop where
  type : entry.type = declared.1
  symbol : Entries.get? "GENSYM" declared.2 = some (.string entry.symbol)
  rules : List.Forall₂ Rule.WrittenAs declared.2 entry.rules
  typedOnce : ∃ place, (declared.2[place]?).map Prod.fst = some "GENSYM" ∧
    ∀ (i : Nat) (rule : Rule), entry.rules[i]? = some rule → (rule.target = .type ↔ i = place)

/-- The binding is declared under its name with a function and parameters. -/
structure NamedBinding.WrittenAs (declared : String × Json) (named : NamedBinding) : Prop where
  name : named.name = declared.1
  binding : ∃ function, declared.2.part? "FUNCTION" 0 = some (.string function) ∧
    Binding.ofDeclaration declared.1 function ((declared.2.part? "DATA" 1).getD .null) =
      .ok named.binding

/-- The repetition is for the first pair of the document of its subtemplate. -/
def Iteration.WrittenIn (document : Json) (iteration : Iteration) : Prop :=
  ∃ others, document.part? "ITERABLE" 4 =
    some (.array (.array [.string iteration.source, .string iteration.variableName] :: others))

namespace Options

/-- The options are what an options record says, with the default of each field that is missing. -/
structure WrittenIn (document : Json) (options : Options) : Prop where
  hashedIds : (document.part? "HASHED_IDS" 0).getD (.bool false) = .bool options.hashedIds
  lookup : (document.part? "GEOLOOKUP" 1).getD (.bool false) = .bool options.lookup
  lookupClasses : (document.part? "GEOLOOKUP_CLASSES" 2).getD .null = .null ∧
      options.lookupClasses = ["AddressLocation"] ∨
    document.part? "GEOLOOKUP_CLASSES" 2 = some (.array (options.lookupClasses.map .string))

/-- The options record of a template document, unless it is missing or null. -/
def record? (document : Json) : Option Json :=
  match document.part? "OPTIONS" 3 with
  | some .null => none
  | other => other

/-- The options are those of the first of the documents that has an options record, and the defaults
if none has one. -/
def AreNearest (documents : List Json) (options : Options) : Prop :=
  match documents.findSome? record? with
  | some record => WrittenIn record options
  | none => options = ⟨false, false, ["AddressLocation"]⟩

end Options

namespace Template

/-- The scope of a template says what its document says, where `around` are the documents around it,
the innermost one first. -/
structure Scope.WrittenIn (around : List Json) (document : Json) (t : Template) : Prop where
  entries : ∃ declared : List (String × Entries Json),
    document.part? "TEMPLATE" 0 =
      some (.array (declared.map fun entry => .array [.string entry.1, .object entry.2])) ∧
    List.Forall₂ Entry.WrittenAs declared t.entries
  bindings : ∃ declared, (document.part? "BIND" 2).getD (.object []) = .object declared ∧
    List.Forall₂ NamedBinding.WrittenAs declared t.bindings
  options : Options.AreNearest (document :: around) t.options
  found : ∀ entry ∈ t.entries, ∀ rule ∈ entry.rules, ∀ name symbol,
    rule.target = .repeated name symbol → name ∈ t.subtemplates.map Prod.fst

mutual

/-- The template says what its document says, at every level. -/
inductive WrittenIn : List Json → Json → Template → Prop where
  | intro {around : List Json} {document : Json} {t : Template} {declared : List (String × Json)}
      (scope : Scope.WrittenIn around document t)
      (named : (document.part? "SUBTEMPLATES" 1).getD (.object []) = .object declared)
      (inside : PartsWrittenIn (document :: around) declared t.subtemplates) :
      WrittenIn around document t

/-- The subtemplates say what their documents say, each under the name of its document and repeated
for the pair that is given there. -/
inductive PartsWrittenIn : List Json → List (String × Json) → List (String × Iteration × Template) →
    Prop where
  | nil {around : List Json} : PartsWrittenIn around [] []
  | cons {around : List Json} {name : String} {document : Json} {iteration : Iteration}
      {t : Template} {declared : List (String × Json)}
      {parts : List (String × Iteration × Template)}
      (repetition : iteration.WrittenIn document) (first : WrittenIn around document t)
      (others : PartsWrittenIn around declared parts) :
      PartsWrittenIn around ((name, document) :: declared) ((name, iteration, t) :: parts)

end

end Template

/-! ### Reading outlines -/

namespace OptionsOutline

theorem isPlain_shape : shape.IsPlain := ⟨by decide, by decide⟩

/-- What is read for a field of an options record changes its own part and no other. -/
structure Sets (i : Nat) (d : Document) (options options' : OptionsOutline) : Prop where
  hashedIds : if i = 0 then d.asBool = .ok options'.hashedIds
    else options'.hashedIds = options.hashedIds
  lookup : if i = 1 then d.asBool = .ok options'.lookup else options'.lookup = options.lookup
  lookupClasses : if i = 2 then
      d.asOption (Document.asList Document.asText) = .ok options'.lookupClasses
    else options'.lookupClasses = options.lookupClasses

theorem exists_step {document : Document} {options : OptionsOutline}
    (decoded : ofDocument true document = .ok options) :
    ∃ step, (∀ i d acc acc', i < shape.fields.length → step i d acc = .ok acc' →
        Sets i d acc acc') ∧
      document.asRecord true shape step {} = .ok options := by
  refine ⟨_, ?_, decoded⟩
  intro i d acc acc' bound stepped
  have places : i = 0 ∨ i = 1 ∨ i = 2 := by
    change i < 3 at bound
    omega
  rcases places with rfl | rfl | rfl
  all_goals
    obtain ⟨_, read, same⟩ := bind_eq_ok_iff.mp stepped
    cases same
    constructor <;> first | exact read | rfl

/-- A flag that is read from an optional field. -/
theorem getD_of_holds {field : RecordField} {part : Option Json} {flag : Bool}
    (h : field.Holds Document.asBool false part flag) : part.getD (.bool false) = .bool flag := by
  cases part with
  | none => rw [Option.getD_none, h.2]
  | some part => rw [Option.getD_some, Document.asBool_ofJson_iff.mp h]

/-- The classes that are read from an optional field that may be null. -/
theorem lookupClasses_of_holds {field : RecordField} {part : Option Json}
    {classes : Option (List String)}
    (h : field.Holds (Document.asOption (Document.asList Document.asText)) none part classes) :
    part.getD .null = .null ∧ classes.getD defaultLookupClasses = ["AddressLocation"] ∨
      part = some (.array ((classes.getD defaultLookupClasses).map .string)) := by
  cases part with
  | none =>
      obtain ⟨_, rfl⟩ := h
      exact .inl ⟨rfl, rfl⟩
  | some part =>
      rcases Document.asOption_ofJson_iff.mp h with ⟨rfl, rfl⟩ | ⟨_, classes, decoded, rfl⟩
      · exact .inl ⟨rfl, rfl⟩
      · refine .inr (congrArg some ?_)
        exact Document.eq_array_of_asList decoded fun _ _ _ _ _ => Document.asText_ofJson_iff.mp

theorem writtenIn_of_ofDocument {record : Json} {outline : OptionsOutline}
    (decoded : ofDocument true (.ofJson record) = .ok outline) (parent : Options) :
    (Options.ofOutline parent (some outline)).WrittenIn record := by
  obtain ⟨step, sets, decoded⟩ := exists_step decoded
  have hashedIds := Document.holds_of_asRecord isPlain_shape (j := 0) rfl
    (fun i d acc acc' bound stepped => (sets i d acc acc' bound stepped).hashedIds) decoded
  have lookup := Document.holds_of_asRecord isPlain_shape (j := 1) rfl
    (fun i d acc acc' bound stepped => (sets i d acc acc' bound stepped).lookup) decoded
  have lookupClasses := Document.holds_of_asRecord isPlain_shape (j := 2) rfl
    (fun i d acc acc' bound stepped => (sets i d acc acc' bound stepped).lookupClasses) decoded
  exact ⟨getD_of_holds hashedIds, getD_of_holds lookup, lookupClasses_of_holds lookupClasses⟩

end OptionsOutline

namespace Outline

theorem isPlain_shape : shape.IsPlain := ⟨by decide, by decide⟩

def readEntries (d : Document) : Decoded (List (String × Entries Json)) :=
  d.asList (Document.asPair Document.asText (Document.asNamed Document.asJson))

def readIterations (d : Document) : Decoded (List (String × String)) :=
  d.asList (Document.asPair Document.asText Document.asText)

structure Sets (fuel i : Nat) (d : Document) (outline outline' : Outline) : Prop where
  entries : if i = 0 then readEntries d = .ok outline'.entries
    else outline'.entries = outline.entries
  subtemplates : if i = 1 then d.asNamed (decode true fuel) = .ok outline'.subtemplates
    else outline'.subtemplates = outline.subtemplates
  bindings : if i = 2 then d.asNamed Document.asJson = .ok outline'.bindings
    else outline'.bindings = outline.bindings
  options : if i = 3 then d.asOption (OptionsOutline.ofDocument true) = .ok outline'.options
    else outline'.options = outline.options
  iterations : if i = 4 then readIterations d = .ok outline'.iterations
    else outline'.iterations = outline.iterations

theorem exists_step {fuel : Nat} {document : Document} {outline : Outline}
    (decoded : decode true (fuel + 1) document = .ok outline) :
    ∃ step, (∀ i d acc acc', i < shape.fields.length → step i d acc = .ok acc' →
        Sets fuel i d acc acc') ∧
      document.asRecord true shape step {} = .ok outline := by
  refine ⟨_, ?_, decoded⟩
  intro i d acc acc' bound stepped
  have places : i = 0 ∨ i = 1 ∨ i = 2 ∨ i = 3 ∨ i = 4 := by
    change i < 5 at bound
    omega
  rcases places with rfl | rfl | rfl | rfl | rfl
  all_goals
    obtain ⟨_, read, same⟩ := bind_eq_ok_iff.mp stepped
    cases same
    constructor <;> first | exact read | rfl

/-- What an outline holds that is read from a JSON value. -/
structure ReadFrom (fuel : Nat) (v : Json) (outline : Outline) : Prop where
  entries : RecordField.Holds { name := "TEMPLATE" } readEntries [] (v.part? "TEMPLATE" 0)
    outline.entries
  subtemplates : RecordField.Holds { name := "SUBTEMPLATES", optional := true }
    (Document.asNamed (decode true fuel)) [] (v.part? "SUBTEMPLATES" 1) outline.subtemplates
  bindings : RecordField.Holds { name := "BIND", optional := true }
    (Document.asNamed Document.asJson) [] (v.part? "BIND" 2) outline.bindings
  options : RecordField.Holds { name := "OPTIONS", optional := true }
    (Document.asOption (OptionsOutline.ofDocument true)) none (v.part? "OPTIONS" 3) outline.options
  iterations : RecordField.Holds { name := "ITERABLE", optional := true } readIterations []
    (v.part? "ITERABLE" 4) outline.iterations

theorem readFrom_of_decode {fuel : Nat} {v : Json} {outline : Outline}
    (decoded : decode true (fuel + 1) (.ofJson v) = .ok outline) : outline.ReadFrom fuel v := by
  obtain ⟨step, sets, decoded⟩ := exists_step decoded
  exact
    { entries := Document.holds_of_asRecord isPlain_shape (j := 0) rfl
        (fun i d acc acc' bound stepped => (sets i d acc acc' bound stepped).entries) decoded
      subtemplates := Document.holds_of_asRecord isPlain_shape (j := 1) rfl
        (fun i d acc acc' bound stepped => (sets i d acc acc' bound stepped).subtemplates) decoded
      bindings := Document.holds_of_asRecord isPlain_shape (j := 2) rfl
        (fun i d acc acc' bound stepped => (sets i d acc acc' bound stepped).bindings) decoded
      options := Document.holds_of_asRecord isPlain_shape (j := 3) rfl
        (fun i d acc acc' bound stepped => (sets i d acc acc' bound stepped).options) decoded
      iterations := Document.holds_of_asRecord isPlain_shape (j := 4) rfl
        (fun i d acc acc' bound stepped => (sets i d acc acc' bound stepped).iterations) decoded }

namespace ReadFrom

variable {fuel : Nat} {v : Json} {outline : Outline}

theorem entries_written (h : outline.ReadFrom fuel v) (unique : v.HasUniqueNames) :
    v.part? "TEMPLATE" 0 =
        some (.array (outline.entries.map fun entry => .array [.string entry.1, .object entry.2])) ∧
      ∀ entry ∈ outline.entries, (Entries.names entry.2).Nodup := by
  have h := h.entries
  cases part : v.part? "TEMPLATE" 0 with
  | none =>
      rw [part] at h
      exact absurd h.1 (by decide)
  | some written =>
      rw [part] at h
      have unique := unique.part? part
      have same : written =
          .array (outline.entries.map fun entry => .array [.string entry.1, .object entry.2]) := by
        refine Document.eq_array_of_asList h ?_
        rintro items rfl item member entry decoded
        obtain ⟨a, b, rfl, read, read'⟩ := Document.asPair_ofJson_iff.mp decoded
        obtain ⟨_, unique, _⟩ := Json.everyItem_iff.mp unique _ member
        rw [Document.asText_ofJson_iff.mp read, Document.asNamed_asJson_ofJson unique read']
      subst same
      refine ⟨rfl, fun entry member => ?_⟩
      obtain ⟨_, ⟨nodup, _⟩, _⟩ := Json.everyItem_iff.mp unique _ (List.mem_map_of_mem member)
      exact nodup

theorem iteration_written (h : outline.ReadFrom fuel v) {source variableName : String}
    {others : List (String × String)}
    (first : outline.iterations = (source, variableName) :: others) :
    Iteration.WrittenIn v ⟨source, variableName⟩ := by
  have h := h.iterations
  cases part : v.part? "ITERABLE" 4 with
  | none =>
      rw [part] at h
      rw [h.2] at first
      cases first
  | some written =>
      rw [part] at h
      have same : written = .array (outline.iterations.map fun pair =>
          .array [.string pair.1, .string pair.2]) := Document.eq_array_of_asList h ?_
      · rw [first] at same
        exact ⟨_, part.trans (congrArg some same)⟩
      · intro _ _ item _ pair decoded
        obtain ⟨a, b, rfl, read, read'⟩ := Document.asPair_ofJson_iff.mp decoded
        rw [Document.asText_ofJson_iff.mp read, Document.asText_ofJson_iff.mp read']

theorem bindings_written (h : outline.ReadFrom fuel v) (unique : v.HasUniqueNames) :
    (v.part? "BIND" 2).getD (.object []) = .object outline.bindings ∧
      ∀ field ∈ outline.bindings, field.2.HasUniqueNames := by
  have h := h.bindings
  cases part : v.part? "BIND" 2 with
  | none =>
      rw [part] at h
      rw [h.2]
      exact ⟨rfl, nofun⟩
  | some written =>
      rw [part] at h
      have unique := unique.part? part
      obtain rfl := Document.asNamed_asJson_ofJson unique h
      exact ⟨rfl, Json.everyField_iff.mp unique.2⟩

theorem subtemplates_written (h : outline.ReadFrom fuel v) (unique : v.HasUniqueNames) :
    ∃ declared, (v.part? "SUBTEMPLATES" 1).getD (.object []) = .object declared ∧
      (∀ field ∈ declared, field.2.HasUniqueNames) ∧
      List.Forall₂ (fun field inner => inner.1 = field.1 ∧
        decode true fuel (.ofJson field.2) = .ok inner.2) declared outline.subtemplates := by
  have h := h.subtemplates
  cases part : v.part? "SUBTEMPLATES" 1 with
  | none =>
      rw [part] at h
      rw [h.2]
      exact ⟨[], rfl, nofun, .nil⟩
  | some written =>
      rw [part] at h
      have unique := unique.part? part
      obtain ⟨declared, rfl, inner⟩ := (Document.asNamed_ofJson_iff unique).mp h
      exact ⟨declared, rfl, Json.everyField_iff.mp unique.2, inner⟩

/-- The options of the scope are those of the nearest document with an options record, if those of
the scope around it are. -/
theorem areNearest (h : outline.ReadFrom fuel v) {around : List Json} {parent : Options}
    (nearest : Options.AreNearest around parent) :
    Options.AreNearest (v :: around) (Options.ofOutline parent outline.options) := by
  have h := h.options
  rw [Options.AreNearest, List.findSome?_cons, Options.record?]
  cases part : v.part? "OPTIONS" 3 with
  | none =>
      rw [part] at h
      rw [h.2]
      exact nearest
  | some record =>
      rw [part] at h
      rcases Document.asOption_ofJson_iff.mp h with ⟨rfl, none⟩ | ⟨written, options, decoded, same⟩
      · rw [none]
        exact nearest
      · rw [same]
        cases record with
        | null => exact absurd rfl written
        | bool | number | string | array | object =>
            exact OptionsOutline.writtenIn_of_ofDocument decoded parent

end ReadFrom

theorem iteration_written_of_decode {fuel : Nat} {v : Json} {outline : Outline}
    {source variableName : String} {others : List (String × String)}
    (decoded : decode true fuel (.ofJson v) = .ok outline)
    (first : outline.iterations = (source, variableName) :: others) :
    Iteration.WrittenIn v ⟨source, variableName⟩ := by
  cases fuel with
  | zero => cases decoded
  | succ fuel => exact (readFrom_of_decode decoded).iteration_written first

end Outline

/-! ### Entries and bindings -/

theorem eq_map_of_mapM_string? {items : List Json} {texts : List String}
    (found : items.mapM Json.string? = some texts) : items = texts.map .string := by
  induction items generalizing texts with
  | nil =>
      cases found
      rfl
  | cons item items ih =>
      rw [List.mapM_cons, Option.bind_eq_bind, Option.bind_eq_some_iff] at found
      obtain ⟨text, first, found⟩ := found
      obtain ⟨others, rest, same⟩ := Option.bind_eq_some_iff.mp found
      cases same
      cases item with
      | string _ =>
          cases first
          rw [ih rest, List.map_cons]
      | null | bool | number | array | object => cases first

theorem writtenAs_of_predicates? {key : String} {value : Json} {target : Target}
    {predicates : List String} (other : key ≠ "GENSYM") (denotes : target.WrittenAs key)
    (found : predicates? value = some predicates) :
    Rule.WrittenAs (key, value) ⟨target, predicates⟩ := by
  cases value with
  | string predicate =>
      cases found
      exact .one other denotes
  | array items =>
      obtain rfl := eq_map_of_mapM_string? found
      exact .several other denotes
  | null | bool | number | object => cases found

namespace Entry

variable {type key : String} {value : Json} {declared : Option String × Rule}

theorem writtenAs_of_property (declares : property type key value = .ok declared) :
    declared.2.WrittenAs (key, value) := by
  unfold property at declares
  split at declares
  next isSymbol =>
    split at declares
    · cases declares
      obtain rfl : key = "GENSYM" := isSymbol
      exact .type
    · cases declares
  next other =>
    split at declares
    · cases declares
    · cases declares
    next target predicates denotes found =>
      cases declares
      exact writtenAs_of_predicates? other (Target.ofKey?_eq_some_iff.mp denotes) found

theorem symbol_of_property {symbol : String} {rule : Rule}
    (declares : property type key value = .ok (some symbol, rule)) :
    key = "GENSYM" ∧ value = .string symbol := by
  unfold property at declares
  split at declares
  next isSymbol =>
    split at declares
    · cases declares
      exact ⟨isSymbol, rfl⟩
    · cases declares
  next => split at declares <;> cases declares

/-- The keys of the properties are different, so only the one that declares the symbol gives a rule
for the class. -/
theorem writtenAs_of_ofProperties {properties : Entries Json} {entry : Entry}
    (nodup : (Entries.names properties).Nodup) (loaded : ofProperties type properties = .ok entry) :
    entry.WrittenAs (type, properties) := by
  obtain ⟨declared, mapped, loaded⟩ := bind_eq_ok_iff.mp loaded
  have each := mapM_eq_ok_iff.mp mapped
  split at loaded
  next symbol found =>
    cases loaded
    obtain ⟨⟨_, rule⟩, member, rfl⟩ := List.exists_of_findSome?_eq_some found
    obtain ⟨place, there⟩ := List.mem_iff_getElem?.mp member
    obtain ⟨⟨key, value⟩, written, declares⟩ := exists_of_getElem?_right each there
    obtain ⟨rfl, rfl⟩ := symbol_of_property declares
    refine ⟨rfl, Entries.get?_of_mem nodup (List.mem_of_getElem? written), ?_, place, ?_, ?_⟩
    · refine List.forall₂_map_right_iff.mpr (each.imp ?_)
      exact fun _ _ declares => writtenAs_of_property declares
    · exact congrArg (Option.map Prod.fst) written
    · intro i rule here
      rw [List.getElem?_map, Option.map_eq_some_iff] at here
      obtain ⟨_, here, rfl⟩ := here
      obtain ⟨⟨key, other⟩, written', declares'⟩ := exists_of_getElem?_right each here
      have key_at {j : Nat} {field : String × Json} (h : properties[j]? = some field) :
          (Entries.names properties)[j]? = some field.1 := by
        rw [Entries.names, List.getElem?_map, h]
        rfl
      rw [target_eq_type_iff declares']
      constructor
      · rintro rfl
        have bound := (List.getElem?_eq_some_iff.mp (key_at written')).1
        exact (List.getElem?_inj bound nodup).mp ((key_at written').trans (key_at written).symm)
      · rintro rfl
        rw [written] at written'
        cases written'
        rfl
  next => cases loaded

end Entry

namespace NamedBinding

theorem isPlain_shape : shape.IsPlain := ⟨by decide, by decide⟩

structure Sets (i : Nat) (d : Document) (p p' : String × Json) : Prop where
  function : if i = 0 then d.asText = .ok p'.1 else p'.1 = p.1
  data : if i = 1 then d.asJson = .ok p'.2 else p'.2 = p.2

theorem exists_step {name : String} {declaration : Json} {named : NamedBinding}
    (loaded : ofDeclaration name declaration = .ok named) :
    ∃ step p, (∀ i d acc acc', i < shape.fields.length → step i d acc = .ok acc' →
        Sets i d acc acc') ∧
      (Document.ofJson declaration).asRecord true shape step ("", .null) = .ok p ∧
      Binding.ofDeclaration name p.1 p.2 = .ok named.binding := by
  simp only [ofDeclaration] at loaded
  split at loaded
  next => cases loaded
  next function data decoded =>
    split at loaded
    next => cases loaded
    next accepted =>
      cases loaded
      refine ⟨_, (function, data), ?_, decoded, accepted⟩
      intro i d acc acc' bound stepped
      have places : i = 0 ∨ i = 1 := by
        change i < 2 at bound
        omega
      rcases places with rfl | rfl
      all_goals
        obtain ⟨_, read, same⟩ := bind_eq_ok_iff.mp stepped
        cases same
        constructor <;> first | exact read | rfl

theorem writtenAs_of_ofDeclaration {name : String} {declaration : Json} {named : NamedBinding}
    (unique : declaration.HasUniqueNames) (loaded : ofDeclaration name declaration = .ok named) :
    named.WrittenAs (name, declaration) := by
  obtain ⟨step, ⟨function, data⟩, sets, decoded, accepted⟩ := exists_step loaded
  have function_held := Document.holds_of_asRecord isPlain_shape (j := 0) rfl
    (fun i d acc acc' bound stepped => (sets i d acc acc' bound stepped).function) decoded
  have data_held := Document.holds_of_asRecord isPlain_shape (j := 1) rfl
    (fun i d acc acc' bound stepped => (sets i d acc acc' bound stepped).data) decoded
  refine ⟨name_of_ofDeclaration loaded, function, ?_, ?_⟩
  · cases part : declaration.part? "FUNCTION" 0 with
    | none =>
        rw [part] at function_held
        exact absurd function_held.1 (by decide)
    | some written =>
        rw [part] at function_held
        rw [Document.asText_ofJson_iff.mp function_held]
  · cases part : declaration.part? "DATA" 1 with
    | none =>
        rw [part] at data_held
        obtain ⟨_, rfl⟩ := data_held
        exact accepted
    | some written =>
        rw [part] at data_held
        have read : (Document.ofJson written).asJson = .ok data := data_held
        rw [Document.asJson_ofJson (unique.part? part), Except.ok.injEq] at read
        subst read
        exact accepted

end NamedBinding

/-! ### Templates -/

namespace Template

/-- What loading an outline settles about the parts of its scope that depend on their
surroundings. -/
structure ScopeLoads (parent : Options) (outline : Outline) (t : Template) : Prop where
  options : t.options = Options.ofOutline parent outline.options
  bindings : List.Forall₂ (fun declared named =>
    NamedBinding.ofDeclaration declared.1 declared.2 = .ok named) outline.bindings t.bindings
  parts : List.Forall₂ (fun declared part => part.1 = declared.1 ∧
    (∃ others, declared.2.iterations = (part.2.1.source, part.2.1.variableName) :: others) ∧
    ofOutlineIn t.options declared.2 = .ok part.2.2) outline.subtemplates t.subtemplates

theorem forall₂_of_subtemplatesOf {options : Options} {outlines : List (String × Outline)}
    {parts : List (String × Iteration × Template)}
    (loaded : subtemplatesOf options outlines = .ok parts) :
    List.Forall₂ (fun declared part => part.1 = declared.1 ∧
      (∃ others, declared.2.iterations = (part.2.1.source, part.2.1.variableName) :: others) ∧
      ofOutlineIn options declared.2 = .ok part.2.2) outlines parts := by
  induction outlines generalizing parts with
  | nil =>
      cases loaded
      exact .nil
  | cons first outlines ih =>
      obtain ⟨name, outline⟩ := first
      rw [subtemplatesOf] at loaded
      split at loaded
      next => cases loaded
      next source variableName others iterations =>
        obtain ⟨inner, first, loaded⟩ := bind_eq_ok_iff.mp loaded
        obtain ⟨_, rest, loaded⟩ := bind_eq_ok_iff.mp loaded
        cases loaded
        exact .cons ⟨rfl, ⟨others, iterations⟩, first⟩ (ih rest)

theorem scopeLoads_of_ofOutlineIn {parent : Options} {outline : Outline} {t : Template}
    (loaded : ofOutlineIn parent outline = .ok t) : ScopeLoads parent outline t := by
  obtain ⟨entries, subtemplates, bindings, options, iterations⟩ := outline
  rw [ofOutlineIn] at loaded
  obtain ⟨bindings', mapped, loaded⟩ := bind_eq_ok_iff.mp loaded
  obtain ⟨parts, inner, loaded⟩ := bind_eq_ok_iff.mp loaded
  obtain ⟨entries', _, loaded⟩ := bind_eq_ok_iff.mp loaded
  obtain ⟨_, _, loaded⟩ := bind_eq_ok_iff.mp loaded
  cases loaded
  exact ⟨rfl, mapM_eq_ok_iff.mp mapped, forall₂_of_subtemplatesOf inner⟩

/-- The parts correspond to documents as soon as each does. -/
theorem partsWrittenIn_of_forall₂ {around : List Json} {declared : List (String × Json)}
    {parts : List (String × Iteration × Template)}
    (h : List.Forall₂ (fun field part => part.1 = field.1 ∧ part.2.1.WrittenIn field.2 ∧
      WrittenIn around field.2 part.2.2) declared parts) :
    PartsWrittenIn around declared parts := by
  induction h with
  | nil => exact .nil
  | @cons field part _ _ first _ ih =>
      obtain ⟨name, document⟩ := field
      obtain ⟨_, iteration, t⟩ := part
      obtain ⟨rfl, repetition, written⟩ := first
      exact .cons repetition written ih

/-- By induction on the number of levels: what the scope of a template says is settled by its own
document and the options around it, and its subtemplates are loaded from the documents within it. -/
theorem writtenIn_of_decode {fuel : Nat} {v : Json} {outline : Outline} {parent : Options}
    {t : Template} {around : List Json} (unique : v.HasUniqueNames)
    (decoded : Outline.decode true fuel (.ofJson v) = .ok outline)
    (loaded : ofOutlineIn parent outline = .ok t) (nearest : Options.AreNearest around parent) :
    WrittenIn around v t := by
  induction fuel generalizing v outline parent t around with
  | zero => cases decoded
  | succ fuel ih =>
      have read := Outline.readFrom_of_decode decoded
      have level := LoadsFrom.level ⟨parent, loaded⟩
      have scope := scopeLoads_of_ofOutlineIn loaded
      have nearest : Options.AreNearest (v :: around) t.options :=
        scope.options ▸ read.areNearest nearest
      obtain ⟨entries, distinct⟩ := read.entries_written unique
      obtain ⟨bindings, uniqueBindings⟩ := read.bindings_written unique
      obtain ⟨declared, named, uniqueParts, inner⟩ := read.subtemplates_written unique
      refine .intro ⟨⟨outline.entries, entries, ?_⟩, ⟨outline.bindings, bindings, ?_⟩, nearest, ?_⟩
        named (partsWrittenIn_of_forall₂ ?_)
      · exact forall₂_imp_of_mem level.entries fun declared member _ loaded =>
          Entry.writtenAs_of_ofProperties (distinct declared member) loaded
      · exact forall₂_imp_of_mem scope.bindings fun declared member _ loaded =>
          NamedBinding.writtenAs_of_ofDeclaration (uniqueBindings declared member) loaded
      · intro entry member rule ruleMember name symbol target
        exact Entry.mem_of_checkSubtemplates (level.checked entry member) ruleMember target
      · refine forall₂_trans inner scope.parts ?_
        rintro field member inner part ⟨sameName, decoded⟩ ⟨sameName', ⟨others, first⟩, loaded⟩
        refine ⟨sameName'.trans sameName, ?_, ih (uniqueParts field member) decoded loaded nearest⟩
        exact Outline.iteration_written_of_decode decoded first

/-- Loading is faithful: a template that comes from a document says what the document says, at every
level. -/
theorem loading_is_faithful {document : Json} {t : Template} (unique : document.HasUniqueNames)
    (loaded : ofJson document = .ok t) : WrittenIn [] document t := by
  unfold ofJson ofDocument at loaded
  split at loaded
  next outline decoded => exact writtenIn_of_decode unique decoded loaded rfl
  next => cases loaded

/-- Books with their editions and the libraries that hold these. The options at the root say nothing
about lookups, those of the editions nothing about identifiers, and the libraries have none. -/
def bookDocument : Json :=
  .object [
    ("OPTIONS", .object [("HASHED_IDS", .bool true)]),
    ("TEMPLATE", .array [.array [.string "Book", .object [("title", .string "name"),
      ("GENSYM", .string "book"),
      ("SUBTEMPLATE_editions.GENSYM_edition", .array [.string "hasEdition", .string "hasPart"])]]]),
    ("BIND", .object [("language", .object [("FUNCTION", .string "Echo"),
      ("DATA", .object [("Echostring", .string "en")])])]),
    ("SUBTEMPLATES", .object [("editions", .object [
      ("TEMPLATE", .array [.array [.string "Edition", .object [("GENSYM", .string "edition"),
        ("GENSYM_book", .string "editionOf")]]]),
      ("ITERABLE", .array [.array [.string "editions", .string "edition"],
        .array [.string "languages", .string "language"]]),
      ("OPTIONS", .object [("GEOLOOKUP", .bool true)]),
      ("SUBTEMPLATES", .object [("libraries", .object [
        ("TEMPLATE", .array [.array [.string "Library", .object [("GENSYM", .string "library")]]]),
        ("OPTIONS", .null),
        ("ITERABLE", .array [.array [.string "libraries", .string "library"]])])])])])]

def bookTemplate : Template :=
  ⟨[⟨"Book", "book", [⟨.column "title", ["name"]⟩, ⟨.type, []⟩,
      ⟨.repeated "editions" "edition", ["hasEdition", "hasPart"]⟩]⟩],
    [("editions", ⟨"editions", "edition"⟩,
      ⟨[⟨"Edition", "edition", [⟨.type, []⟩, ⟨.symbol "book", ["editionOf"]⟩]⟩],
        [("libraries", ⟨"libraries", "library"⟩,
          ⟨[⟨"Library", "library", [⟨.type, []⟩]⟩], [], [], { lookup := true }⟩)],
        [], { lookup := true }⟩)],
    [⟨"language", .constant (.string "en")⟩], { hashedIds := true }⟩

theorem bookDocument_hasUniqueNames : bookDocument.HasUniqueNames := by
  simp [bookDocument, Json.HasUniqueNames, Json.EveryObject, Json.EveryItem, Json.EveryField,
    Entries.names]

theorem loading_is_faithful_books : ofJson bookDocument = .ok bookTemplate ∧
    WrittenIn [] bookDocument bookTemplate := by
  have loaded : ofJson bookDocument = .ok bookTemplate := rfl
  exact ⟨loaded, loading_is_faithful bookDocument_hasUniqueNames loaded⟩

end Template

end RowTriples
