import RowTriples.Entity.Statements
import RowTriples.Proofs.NTriples.Tokens
import RowTriples.Proofs.Typing.Outcomes
/-!
# The literals of values

Whatever the declared range and the shape of a value, its literal is a quoted text with or without a
datatype. The datatypes are a few fixed ones, the class of geometries in the namespace, and the
declared ranges that stand for no kind of value of their own. Only the last ones are taken over as
they are declared.
-/

namespace RowTriples

open NTriples

/-- The IRIs of datatypes. -/
inductive Language.Datatype (language : Language) : String → Prop where
  | xsd {name : String} (known : name ∈ ["double", "integer", "boolean", "dateTime"]) :
      Datatype language (Typing.xsd name)
  | geoJson : Datatype language (language.vocabulary.expand "GeoJSON")
  /-- A range that stands for no kind of value. -/
  | declared {property range : String} (declares : language.schema.declared? property = some range)
      (unknown : Range.ofName range = .other range) :
      Datatype language (language.vocabulary.expand range)

/-- The token is a literal whose datatype, if there is one, has the property. -/
inductive IsLiteral (datatype : String → Prop) : String → Prop where
  | plain (text : String) : IsLiteral datatype (plainLiteral text)
  | typed (text : String) {iri : String} (known : datatype iri) :
      IsLiteral datatype (typedLiteral text iri)

/-- A literal has one of the datatypes of the language. -/
theorem Typing.isLiteral_literal {schema : Schema} {vocabulary : Vocabulary}
    {property object : String} {value : Datum}
    (literal : literal schema vocabulary property value = .ok object) :
    IsLiteral (Language.Datatype ⟨schema, vocabulary⟩) object := by
  cases writes_literal literal with
  | text => exact .plain _
  | json => exact .plain _
  | named own =>
      obtain ⟨⟨_, declares⟩, unknown⟩ := own
      exact .typed _ (.declared declares unknown)
  | double x => exact .typed _ (.xsd (by decide))
  | integer n => exact .typed _ (.xsd (by decide))
  | boolean b => exact .typed _ (.xsd (by decide))
  | timestamp t => exact .typed _ (.xsd (by decide))
  | zoned t offset => exact .typed _ (.xsd (by decide))
  | object fields => exact .typed _ .geoJson

/-! ### Writing literals -/

/-- A literal breaks a line only by its datatype. -/
theorem IsLiteral.fault?_eq_none {datatype : String → Prop} {token : String}
    (h : IsLiteral datatype token) (unbroken : ∀ iri, datatype iri → IsUnbroken iri) :
    fault? .object token = none := by
  cases h with
  | plain text => exact fault?_plainLiteral text
  | typed text known => exact fault?_typedLiteral.mpr (unbroken _ known)

theorem Vocabulary.expand_of {vocabulary : Vocabulary} {property : String → Prop} {name : String}
    (own : property name) (inside : property (vocabulary.base ++ "/" ++ name)) :
    property (vocabulary.expand name) := by
  unfold expand
  split
  · exact own
  · exact inside

theorem isClean_xsd : ∀ name ∈ ["double", "integer", "boolean", "dateTime"],
    IsClean (Typing.xsd name) := by
  decide +kernel

namespace Language

variable {language : Language}

/-- In a clean namespace a datatype is clean if every declared range of no kind is. -/
theorem Datatype.isClean {iri : String} (h : language.Datatype iri)
    (base : IsClean language.vocabulary.base)
    (ranges : ∀ property range, language.schema.declared? property = some range →
      Range.ofName range = .other range → IsClean range) : IsClean iri := by
  have slash : IsClean "/" := by decide
  cases h with
  | xsd known => exact isClean_xsd _ known
  | geoJson =>
      have own : IsClean "GeoJSON" := by decide
      exact Vocabulary.expand_of own (isClean_append.mpr ⟨isClean_append.mpr ⟨base, slash⟩, own⟩)
  | declared declares unknown =>
      have own := ranges _ _ declares unknown
      exact Vocabulary.expand_of own (isClean_append.mpr ⟨isClean_append.mpr ⟨base, slash⟩, own⟩)

/-- In a clean namespace a datatype breaks a line only if a declared range does. -/
theorem Datatype.isUnbroken {iri : String} (h : language.Datatype iri)
    (base : IsClean language.vocabulary.base)
    (ranges : ∀ property range, language.schema.declared? property = some range →
      IsUnbroken range) : IsUnbroken iri := by
  have slash : IsUnbroken "/" := by decide
  cases h with
  | xsd known => exact (isClean_xsd _ known).isUnbroken
  | geoJson =>
      have own : IsUnbroken "GeoJSON" := by decide
      exact Vocabulary.expand_of own
        (isUnbroken_append.mpr ⟨isUnbroken_append.mpr ⟨base.isUnbroken, slash⟩, own⟩)
  | declared declares =>
      have own := ranges _ _ declares
      exact Vocabulary.expand_of own
        (isUnbroken_append.mpr ⟨isUnbroken_append.mpr ⟨base.isUnbroken, slash⟩, own⟩)

end Language

end RowTriples
