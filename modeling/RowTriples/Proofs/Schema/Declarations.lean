import RowTriples.Proofs.NTriples.Spelling
import RowTriples.Proofs.Pointwise
import RowTriples.Typing
/-!
# What a schema declares

The range of a property is that of the last definition in the graph that is about the property and
has a usable range. Where ranges are listed, in lists of any depth, the first one counts.

A bare name and its IRI are two spellings of one name. In a vocabulary whose namespace is an
absolute IRI neither the spelling of the identifiers in a schema nor that of the property that is
asked for makes a difference.
-/

namespace RowTriples

namespace Entries

variable {α : Type}

/-- The last of the entries of a name counts, also where the entries are found in another list. -/
theorem get?_ofList_filterMap {β : Type} (f : β → Option (String × α)) (xs : List β)
    (name : String) :
    get? name (ofList (xs.filterMap f)) =
      xs.reverse.findSome? fun x => (f x).bind fun entry =>
        if entry.1 = name then some entry.2 else none := by
  rw [ofList, List.foldl_eq_foldr_reverse, ← List.filterMap_reverse]
  induction xs.reverse with
  | nil => rfl
  | cons x xs ih =>
      cases found : f x with
      | none =>
        rw [List.filterMap_cons_none found, ih, List.findSome?_cons, found, Option.bind_none]
      | some entry =>
          rw [List.filterMap_cons_some found, List.foldr_cons, get?_put, ih, List.findSome?_cons,
            found, Option.bind_some]
          by_cases here : entry.1 = name
          · rw [if_pos here, if_pos here]
          · rw [if_neg here, if_neg here]

/-- Two entries of one name, whose values are related in the way that belongs to the name. -/
def Alike (relates : String → α → α → Prop) (entry entry' : String × α) : Prop :=
  entry.1 = entry'.1 ∧ relates entry.1 entry.2 entry'.2

/-- Where entries are alike one by one, what is made of the value of a name is the same. -/
theorem bind_get?_alike {γ : Type} {relates : String → α → α → Prop} {entries entries' : Entries α}
    (alike : List.Forall₂ (Alike relates) entries entries') (name : String) {f : α → Option γ}
    (same : ∀ value value', relates name value value' → f value' = f value) :
    (get? name entries').bind f = (get? name entries).bind f := by
  induction alike with
  | nil => rfl
  | @cons entry entry' _ _ first _ ih =>
      obtain ⟨key, value⟩ := entry
      obtain ⟨key', value'⟩ := entry'
      obtain ⟨sameKey, related⟩ := first
      obtain rfl : key = key' := sameKey
      by_cases here : key = name
      · obtain rfl := here
        rw [get?, get?, if_pos rfl, if_pos rfl]
        exact same value value' related
      · rw [get?, get?, if_neg here, if_neg here]
        exact ih

end Entries

/-! ### Ranges -/

namespace Schema

mutual

/-- The names at a range edge, in the order of the document. -/
def rangeNames : Json → List String
  | .string name => [name]
  | .object fields => ((Entries.get? "@id" fields).bind Json.string?).toList
  | .array items => rangeNamesOf items
  | _ => []

def rangeNamesOf : List Json → List String
  | [] => []
  | item :: items => rangeNames item ++ rangeNamesOf items

end

mutual

/-- The first name at a range edge counts. -/
theorem rangeName?_eq_head? : (edge : Json) → rangeName? edge = (rangeNames edge).head?
  | .string name => rfl
  | .object fields => by
      rw [rangeName?, rangeNames]
      cases (Entries.get? "@id" fields).bind Json.string? <;> rfl
  | .array items => by
      rw [rangeName?, rangeNames]
      exact firstRangeName?_eq_head? items
  | .null | .bool _ | .number _ => rfl

theorem firstRangeName?_eq_head? :
    (items : List Json) → firstRangeName? items = (rangeNamesOf items).head?
  | [] => rfl
  | item :: items => by
      rw [firstRangeName?, rangeNamesOf, List.head?_append, rangeName?_eq_head? item,
        firstRangeName?_eq_head? items]

end

/-! ### Definitions -/

/-- A node of the graph is about a property and has a usable range, by local names. -/
structure Declares (vocabulary : Vocabulary) (property range : String) (node : Json) : Prop where
  about : ∃ id, node.field? "@id" = some (.string id) ∧ vocabulary.localName id = property
  usable : ∃ edge name, node.field? (vocabulary.expand "rangeIncludes") = some edge ∧
    (rangeNames edge).head? = some name ∧ vocabulary.localName name = range

section Definitions

variable {vocabulary : Vocabulary} {property range : String} {node : Json} {nodes : List Json}

theorem string?_eq_some_iff {v : Json} {text : String} :
    v.string? = some text ↔ v = .string text := by
  cases v <;> simp [Json.string?]

theorem items?_eq_some_iff {v : Json} {items : List Json} :
    v.items? = some items ↔ v = .array items := by
  cases v <;> simp [Json.items?]

theorem declaration?_eq_some_iff :
    declaration? vocabulary node = some (property, range) ↔
      Declares vocabulary property range node := by
  have shape : declaration? vocabulary node = some (property, range) ↔
      ∃ id, (node.field? "@id").bind Json.string? = some id ∧
        ∃ name, (node.field? (vocabulary.expand "rangeIncludes")).bind rangeName? = some name ∧
          (vocabulary.localName id, vocabulary.localName name) = (property, range) := by
    unfold declaration?
    simp only [Option.bind_eq_bind, Option.bind_eq_some_iff, Option.pure_def, Option.some.injEq]
  simp only [shape, Option.bind_eq_some_iff, string?_eq_some_iff, rangeName?_eq_head?,
    Prod.mk.injEq]
  constructor
  · rintro ⟨id, ⟨_, named, rfl⟩, name, ⟨edge, found, first⟩, about, toRange⟩
    exact ⟨⟨id, named, about⟩, edge, name, found, first, toRange⟩
  · rintro ⟨⟨id, named, about⟩, edge, name, found, first, toRange⟩
    exact ⟨id, ⟨_, named, rfl⟩, name, ⟨edge, found, first⟩, about, toRange⟩

/-- The last definition of a property counts. -/
theorem declared?_ofList_eq_some_iff :
    (ofList (nodes.filterMap (declaration? vocabulary))).declared? property = some range ↔
      ∃ before node after, nodes = before ++ node :: after ∧
        Declares vocabulary property range node ∧
        ∀ later ∈ after, ∀ other, ¬Declares vocabulary property other later := by
  have here (node : Json) (range : String) :
      ((declaration? vocabulary node).bind fun entry =>
        if entry.1 = property then some entry.2 else none) = some range ↔
      Declares vocabulary property range node := by
    rw [← declaration?_eq_some_iff, Option.bind_eq_some_iff]
    constructor
    · rintro ⟨⟨key, value⟩, found, same⟩
      simp only [Option.ite_none_right_eq_some, Option.some.injEq] at same
      rw [found, same.1, same.2]
    · intro found
      exact ⟨(property, range), found, if_pos rfl⟩
  rw [declared?, ofList, Entries.get?_ofList_filterMap, List.findSome?_eq_some_iff]
  simp only [here, Option.eq_none_iff_forall_ne_some, Ne]
  constructor
  · rintro ⟨after, node, before, split, declares, rest⟩
    refine ⟨before.reverse, node, after.reverse, ?_, declares, ?_⟩
    · simpa using List.reverse_eq_iff.mp split
    · intro later member
      exact rest later (List.mem_reverse.mp member)
  · rintro ⟨before, node, after, rfl, declares, rest⟩
    refine ⟨after.reverse, node, before.reverse, by simp, declares, ?_⟩
    intro later member
    exact rest later (List.mem_reverse.mp member)

end Definitions

end Schema

/-! ### Spellings in a schema -/

/-- Two spellings of one name: a bare name may stand for its IRI and the other way round. -/
def Vocabulary.SameName (vocabulary : Vocabulary) (name name' : String) : Prop :=
  name = name' ∨ (isAbsolute name = false ∧ name' = vocabulary.expand name) ∨
    (isAbsolute name' = false ∧ name = vocabulary.expand name')

/-- A value and the same value, or two objects in which values are edited in a way that depends on
the names of their fields. -/
inductive Json.Edited (edit : String → Json → Json → Prop) : Json → Json → Prop
  | same (v : Json) : Edited edit v v
  | object {fields fields' : List (String × Json)}
      (alike : List.Forall₂ (Entries.Alike fun key v v' => v = v' ∨ edit key v v') fields fields') :
      Edited edit (.object fields) (.object fields')

namespace Schema

/-- The value of an identifier field, in two spellings. -/
inductive RespelledId (vocabulary : Vocabulary) (key : String) : Json → Json → Prop
  | text {name name' : String} (isId : key = "@id") (spelt : vocabulary.SameName name name') :
      RespelledId vocabulary key (.string name) (.string name')

mutual

/-- The value of a range edge, with the names in it in other spellings. -/
inductive RespelledRange (vocabulary : Vocabulary) : Json → Json → Prop
  | text {name name' : String} (spelt : vocabulary.SameName name name') :
      RespelledRange vocabulary (.string name) (.string name')
  | edited {v v' : Json} (ids : Json.Edited (RespelledId vocabulary) v v') :
      RespelledRange vocabulary v v'
  | array {items items' : List Json} (each : RespelledRanges vocabulary items items') :
      RespelledRange vocabulary (.array items) (.array items')

inductive RespelledRanges (vocabulary : Vocabulary) : List Json → List Json → Prop
  | nil : RespelledRanges vocabulary [] []
  | cons {item item' : Json} {items items' : List Json}
      (first : RespelledRange vocabulary item item')
      (others : RespelledRanges vocabulary items items') :
      RespelledRanges vocabulary (item :: items) (item' :: items')

end

/-- A node of the graph, with its identifier and the names of its ranges in other spellings. -/
def RespelledNode (vocabulary : Vocabulary) : Json → Json → Prop :=
  Json.Edited fun key v v' => RespelledId vocabulary key v v' ∨
    (key = vocabulary.expand "rangeIncludes" ∧ RespelledRange vocabulary v v')

def RespelledDocument (vocabulary : Vocabulary) : Json → Json → Prop :=
  Json.Edited fun key v v' =>
    key = "@graph" ∧ ∃ nodes nodes', v = .array nodes ∧ v' = .array nodes' ∧
      List.Forall₂ (RespelledNode vocabulary) nodes nodes'

end Schema

/-- What is made of a field is the same if editing the value of this field does not change it. -/
theorem Json.Edited.bind_field? {γ : Type} {edit : String → Json → Json → Prop} {v v' : Json}
    (edited : Edited edit v v') (key : String) {f : Json → Option γ}
    (same : ∀ a a', edit key a a' → f a' = f a) :
    (v'.field? key).bind f = (v.field? key).bind f := by
  cases edited with
  | same v => rfl
  | object alike =>
      apply Entries.bind_get?_alike alike key
      rintro a a' (rfl | changed)
      · rfl
      · exact same a a' changed

section Spellings

variable {vocabulary : Vocabulary}

theorem Vocabulary.SameName.localName_eq (absolute : isAbsolute vocabulary.base = true)
    {name name' : String} (spelt : vocabulary.SameName name name') :
    vocabulary.localName name' = vocabulary.localName name := by
  rcases spelt with rfl | ⟨bare, rfl⟩ | ⟨bare, rfl⟩
  · rfl
  · exact localName_expand_of_bare absolute bare
  · exact (localName_expand_of_bare absolute bare).symm

namespace Schema

/-- The local name that a value gives, if it is a name. -/
def localId? (vocabulary : Vocabulary) (v : Json) : Option String :=
  v.string?.map vocabulary.localName

def localRange? (vocabulary : Vocabulary) (edge : Json) : Option String :=
  (rangeName? edge).map vocabulary.localName

theorem localId?_respelled (absolute : isAbsolute vocabulary.base = true) {key : String}
    {v v' : Json} (respelled : RespelledId vocabulary key v v') :
    localId? vocabulary v' = localId? vocabulary v := by
  cases respelled with
  | text _ spelt => exact congrArg some (spelt.localName_eq absolute)

mutual

/-- The names at an edited range edge are the same, up to their spelling. -/
theorem rangeNames_respelled (absolute : isAbsolute vocabulary.base = true) :
    (edge edge' : Json) → RespelledRange vocabulary edge edge' →
    (rangeNames edge').map vocabulary.localName = (rangeNames edge).map vocabulary.localName
  | _, _, .text spelt => by
      rw [rangeNames, rangeNames, List.map_singleton, List.map_singleton,
        spelt.localName_eq absolute]
  | _, _, .edited (.same _) => rfl
  | .object fields, .object fields', .edited (.object alike) => by
      have same := (Json.Edited.object alike).bind_field? "@id" fun _ _ respelled =>
        localId?_respelled absolute respelled
      rw [rangeNames, rangeNames, ← Option.toList_map, ← Option.toList_map, Option.map_bind,
        Option.map_bind]
      exact congrArg Option.toList same
  | .array items, .array items', .array each => by
      rw [rangeNames, rangeNames]
      exact rangeNamesOf_respelled absolute items items' each

theorem rangeNamesOf_respelled (absolute : isAbsolute vocabulary.base = true) :
    (items items' : List Json) → RespelledRanges vocabulary items items' →
    (rangeNamesOf items').map vocabulary.localName = (rangeNamesOf items).map vocabulary.localName
  | [], [], .nil => rfl
  | item :: items, item' :: items', .cons first others => by
      rw [rangeNamesOf, rangeNamesOf, List.map_append, List.map_append,
        rangeNames_respelled absolute item item' first,
        rangeNamesOf_respelled absolute items items' others]

end

theorem localRange?_respelled (absolute : isAbsolute vocabulary.base = true) {edge edge' : Json}
    (respelled : RespelledRange vocabulary edge edge') :
    localRange? vocabulary edge' = localRange? vocabulary edge := by
  rw [localRange?, localRange?, rangeName?_eq_head?, rangeName?_eq_head?, ← List.head?_map,
    ← List.head?_map, rangeNames_respelled absolute edge edge' respelled]

/-- The field of ranges is not that of identifiers. -/
theorem expand_rangeIncludes_ne : vocabulary.expand "rangeIncludes" ≠ "@id" := by
  intro same
  have slash : '/' ∈ (vocabulary.expand "rangeIncludes").toList := by
    rw [Vocabulary.expand_of_bare (by decide +kernel)]
    simp
  rw [same] at slash
  exact absurd slash (by decide)

theorem declaration?_eq (node : Json) :
    declaration? vocabulary node =
      ((node.field? "@id").bind (localId? vocabulary)).bind fun property =>
        ((node.field? (vocabulary.expand "rangeIncludes")).bind (localRange? vocabulary)).map
          (property, ·) := by
  have localId (a : Option Json) : a.bind (localId? vocabulary) =
      (a.bind Json.string?).map vocabulary.localName := by cases a <;> rfl
  have localRange (a : Option Json) : a.bind (localRange? vocabulary) =
      (a.bind rangeName?).map vocabulary.localName := by cases a <;> rfl
  rw [localId, localRange]
  unfold declaration?
  cases (node.field? "@id").bind Json.string? with
  | none => rfl
  | some id => cases (node.field? (vocabulary.expand "rangeIncludes")).bind rangeName? <;> rfl

/-- A node declares the same in other spellings. -/
theorem declaration?_respelled (absolute : isAbsolute vocabulary.base = true) {node node' : Json}
    (respelled : RespelledNode vocabulary node node') :
    declaration? vocabulary node' = declaration? vocabulary node := by
  have sameId : (node'.field? "@id").bind (localId? vocabulary) =
      (node.field? "@id").bind (localId? vocabulary) := by
    apply respelled.bind_field?
    rintro v v' (spelt | ⟨isRange, _⟩)
    · exact localId?_respelled absolute spelt
    · exact absurd isRange.symm expand_rangeIncludes_ne
  have sameRange : (node'.field? (vocabulary.expand "rangeIncludes")).bind
      (localRange? vocabulary) =
      (node.field? (vocabulary.expand "rangeIncludes")).bind (localRange? vocabulary) := by
    apply respelled.bind_field?
    rintro v v' (⟨isId, _⟩ | ⟨_, spelt⟩)
    · exact absurd isId expand_rangeIncludes_ne
    · exact localRange?_respelled absolute spelt
  rw [declaration?_eq, declaration?_eq, sameId, sameRange]

theorem ofDocument_eq (document : Json) :
    ofDocument vocabulary document =
      ((document.field? "@graph").bind fun graph => graph.items?.map fun nodes =>
        ofList (nodes.filterMap (declaration? vocabulary))).getD empty := by
  unfold ofDocument
  cases document.field? "@graph" with
  | none => rfl
  | some graph =>
      rw [Option.bind_some, Option.bind_some]
      cases graph.items? <;> rfl

/-- A document declares the same in other spellings. -/
theorem ofDocument_respelled (absolute : isAbsolute vocabulary.base = true)
    {document document' : Json} (respelled : RespelledDocument vocabulary document document') :
    ofDocument vocabulary document' = ofDocument vocabulary document := by
  rw [ofDocument_eq, ofDocument_eq]
  apply congrArg (Option.getD · empty)
  apply respelled.bind_field?
  rintro _ _ ⟨_, nodes, nodes', rfl, rfl, each⟩
  have declarations := filterMap_eq_of_forall₂ each fun _ _ respelled =>
    declaration?_respelled absolute respelled
  exact congrArg (fun declarations => some (ofList declarations)) declarations

theorem declared?_ofDocument_eq_some_iff {document : Json} {property range : String} :
    (ofDocument vocabulary document).declared? property = some range ↔
      ∃ before node after,
        document.field? "@graph" = some (.array (before ++ node :: after)) ∧
        Declares vocabulary property range node ∧
        ∀ later ∈ after, ∀ other, ¬Declares vocabulary property other later := by
  unfold ofDocument
  cases graph : (document.field? "@graph").bind Json.items? with
  | none =>
      constructor
      · intro found
        cases found
      · rintro ⟨before, node, after, found, _⟩
        rw [found] at graph
        cases graph
  | some nodes =>
      obtain ⟨_, found, isArray⟩ := Option.bind_eq_some_iff.mp graph
      obtain rfl := items?_eq_some_iff.mp isArray
      rw [found]
      simp only [Option.some.injEq, Json.array.injEq]
      exact declared?_ofList_eq_some_iff

end Schema

end Spellings

namespace Typing

theorem literal_expand {vocabulary : Vocabulary} (absolute : isAbsolute vocabulary.base = true)
    {name : String} (bare : isAbsolute name = false) (schema : Schema) (value : Datum) :
    literal schema vocabulary (vocabulary.expand name) value =
      literal schema vocabulary name value := by
  unfold literal
  rw [Vocabulary.localName_expand_of_bare absolute bare]

end Typing

/-- In a namespace that is an absolute IRI the spelling of names is immaterial to typing. A property
is typed alike by a bare name and by its IRI, with the same literal or the same error. A document
with other spellings of the identifiers of its nodes and of the names of their ranges is the same
schema. And the declared range of a property is that of the last node with its local name that has a
usable range, the first one in the order of the document. -/
theorem spelling_is_immaterial (vocabulary : Vocabulary)
    (absolute : isAbsolute vocabulary.base = true) :
    (∀ (schema : Schema) (name : String) (value : Datum), isAbsolute name = false →
      Typing.literal schema vocabulary name value =
        Typing.literal schema vocabulary (vocabulary.expand name) value) ∧
    (∀ document document', Schema.RespelledDocument vocabulary document document' →
      Schema.ofDocument vocabulary document' = Schema.ofDocument vocabulary document) ∧
    ∀ document property range,
      (Schema.ofDocument vocabulary document).declared? property = some range ↔
        ∃ before node after,
          document.field? "@graph" = some (.array (before ++ node :: after)) ∧
          Schema.Declares vocabulary property range node ∧
          ∀ later ∈ after, ∀ other, ¬Schema.Declares vocabulary property other later := by
  refine ⟨?_, ?_, ?_⟩
  · intro schema name value bare
    exact (Typing.literal_expand absolute bare schema value).symm
  · intro document document' respelled
    exact Schema.ofDocument_respelled absolute respelled
  · intro document property range
    exact Schema.declared?_ofDocument_eq_some_iff

/-! ### A property that is defined twice -/

/-- Ranges in lists of lists, of which `integer` is the first one. -/
def agesRange (integer : String) : Json :=
  .array [.array [], .array [.object [("@id", .string integer)]], .string "String"]

def agesNode (age : String) (range : Json) : Json :=
  .object [("@id", .string age), ("http://schema.localhost/rangeIncludes", range)]

/-- A schema in which the age is defined by its name `age` and once more, without a usable range, by
its IRI. -/
def agesDocument (age integer : String) : Json :=
  .object [("@graph", .array
    [agesNode age (agesRange integer), agesNode "http://schema.localhost/age" (.array [])])]

theorem respelledRange_ages :
    Schema.RespelledRange (.of defaultNamespace) (agesRange "Integer")
      (agesRange "http://schema.localhost/Integer") := by
  have expand : "http://schema.localhost/Integer" =
      (Vocabulary.of defaultNamespace).expand "Integer" := by decide +kernel
  have integer : Schema.RespelledId (.of defaultNamespace) "@id" (.string "Integer")
      (.string "http://schema.localhost/Integer") :=
    .text rfl (.inr (.inl ⟨by decide +kernel, expand⟩))
  have reference : Schema.RespelledRange (.of defaultNamespace)
      (.object [("@id", .string "Integer")])
      (.object [("@id", .string "http://schema.localhost/Integer")]) :=
    .edited (.object (.cons ⟨rfl, .inr integer⟩ .nil))
  exact .array (.cons (.edited (.same _)) (.cons (.array (.cons reference .nil))
    (.cons (.edited (.same _)) .nil)))

theorem respelledNode_ages :
    Schema.RespelledNode (.of defaultNamespace) (agesNode "age" (agesRange "Integer"))
      (agesNode "http://schema.localhost/age" (agesRange "http://schema.localhost/Integer")) := by
  have expand : "http://schema.localhost/age" =
      (Vocabulary.of defaultNamespace).expand "age" := by decide +kernel
  have expandRange : "http://schema.localhost/rangeIncludes" =
      (Vocabulary.of defaultNamespace).expand "rangeIncludes" := by decide +kernel
  have age : Schema.RespelledId (.of defaultNamespace) "@id" (.string "age")
      (.string "http://schema.localhost/age") :=
    .text rfl (.inr (.inl ⟨by decide +kernel, expand⟩))
  exact .object (.cons ⟨rfl, .inr (.inl age)⟩
    (.cons ⟨rfl, .inr (.inr ⟨expandRange, respelledRange_ages⟩)⟩ .nil))

theorem respelledDocument_ages :
    Schema.RespelledDocument (.of defaultNamespace) (agesDocument "age" "Integer")
      (agesDocument "http://schema.localhost/age" "http://schema.localhost/Integer") := by
  have nodes := List.Forall₂.cons respelledNode_ages
    (.cons (.same (agesNode "http://schema.localhost/age" (.array []))) .nil)
  exact .object (.cons ⟨rfl, .inr ⟨rfl, _, _, rfl, rfl, nodes⟩⟩ .nil)

theorem spelling_is_immaterial_ages :
    isAbsolute (Vocabulary.of defaultNamespace).base = true ∧ isAbsolute "age" = false ∧
    Schema.RespelledDocument (.of defaultNamespace) (agesDocument "age" "Integer")
      (agesDocument "http://schema.localhost/age" "http://schema.localhost/Integer") ∧
    (Schema.ofDocument (.of defaultNamespace) (agesDocument "http://schema.localhost/age"
      "http://schema.localhost/Integer")).declared? "age" = some "Integer" ∧
    Typing.literal (Schema.ofDocument (.of defaultNamespace) (agesDocument "age" "Integer"))
        (.of defaultNamespace) "age" (.text "7") =
      Typing.literal (Schema.ofDocument (.of defaultNamespace) (agesDocument "age" "Integer"))
        (.of defaultNamespace) ((Vocabulary.of defaultNamespace).expand "age") (.text "7") := by
  have absolute : isAbsolute (Vocabulary.of defaultNamespace).base = true := by decide +kernel
  have bare : isAbsolute "age" = false := by decide +kernel
  obtain ⟨typedAlike, sameSchema, declared⟩ :=
    spelling_is_immaterial (.of defaultNamespace) absolute
  have expandRange : (Vocabulary.of defaultNamespace).expand "rangeIncludes" =
      "http://schema.localhost/rangeIncludes" := by decide +kernel
  refine ⟨absolute, bare, respelledDocument_ages, ?_, typedAlike _ "age" (.text "7") bare⟩
  rw [sameSchema _ _ respelledDocument_ages]
  refine (declared _ "age" "Integer").mpr ⟨[], _, [_], rfl, ⟨?_, ?_⟩, ?_⟩
  · exact ⟨"age", rfl, by decide +kernel⟩
  · rw [expandRange]
    exact ⟨_, "Integer", rfl, rfl, by decide +kernel⟩
  · intro later member other declares
    obtain rfl := List.mem_singleton.mp member
    obtain ⟨_, edge, name, found, first, _⟩ := declares
    rw [expandRange] at found
    obtain rfl := Option.some.inj found
    cases first

end RowTriples
