import RowTriples.Json.Parser
import RowTriples.Proofs.NTriples.Grammar
import RowTriples.Proofs.Text.Bytes
/-!
# Reading bare names back

A bare name stands in its token percent-encoded: the bytes of letters, digits and a few marks stand
for themselves, and every other byte, that of the percent sign included, is written as a percent
sign with two hexadecimal digits. To read the name back is to replace every such triple by its byte.
Where a percent sign can only begin a triple, a name that looks encoded already is not taken for
another one.
-/

namespace RowTriples

/-! ### Percent-encoding -/

/-- The bytes that a percent-encoded name stands for. -/
def percentDecoded? : List Char → Option (List UInt8)
  | [] => some []
  | '%' :: high :: low :: cs =>
    (Json.Text.hexValue? high).bind fun h => (Json.Text.hexValue? low).bind fun l =>
      (percentDecoded? cs).map (UInt8.ofNat (16 * h + l) :: ·)
  | c :: cs => if c = '%' then none else (percentDecoded? cs).map (UInt8.ofNat c.toNat :: ·)

section Reading

variable {cs : List Char}

theorem percentDecoded?_triple {high low : Char} {h l : Nat}
    (highValue : Json.Text.hexValue? high = some h) (lowValue : Json.Text.hexValue? low = some l) :
    percentDecoded? ('%' :: high :: low :: cs) =
      (percentDecoded? cs).map (UInt8.ofNat (16 * h + l) :: ·) := by
  rw [percentDecoded?, highValue, lowValue, Option.bind_some, Option.bind_some]

theorem percentDecoded?_plain {c : Char} (plain : c ≠ '%') :
    percentDecoded? (c :: cs) = (percentDecoded? cs).map (UInt8.ofNat c.toNat :: ·) := by
  rw [percentDecoded?, if_neg plain]
  intro _ _ _ same
  exact absurd same plain

theorem hexValue?_digitChar {n : Nat} (bound : n < 16) :
    Json.Text.hexValue? (Nat.digitChar n).toUpper = some n := by
  have each : ∀ n < 16, Json.Text.hexValue? (Nat.digitChar n).toUpper = some n := by decide
  exact each n bound

/-- The percent sign is no character that stands for itself. -/
theorem ne_percent_of_isUnreserved {b : UInt8} (unreserved : isUnreserved b = true) :
    Char.ofNat b.toNat ≠ '%' := by
  intro same
  simp only [isUnreserved, same] at unreserved
  exact absurd unreserved (by decide)

theorem toNat_ofNat_toNat (b : UInt8) : (Char.ofNat b.toNat).toNat = b.toNat := by
  have bound : b.toNat < 256 := b.toNat_lt
  have valid : b.toNat.isValidChar := .inl (by omega)
  rw [Char.ofNat, dif_pos valid]
  rfl

/-- What a byte is written as is read as that byte. -/
theorem percentDecoded?_encodeByte_append (b : UInt8) (rest : List Char) :
    percentDecoded? (encodeByte b ++ rest) = (percentDecoded? rest).map (b :: ·) := by
  unfold encodeByte
  split
  next unreserved =>
    show percentDecoded? (Char.ofNat b.toNat :: rest) = _
    rw [percentDecoded?_plain (ne_percent_of_isUnreserved unreserved), toNat_ofNat_toNat,
      UInt8.ofNat_toNat]
  next =>
    have bound : b.toNat < 256 := b.toNat_lt
    have highValue := hexValue?_digitChar (n := b.toNat / 16) (by omega)
    have lowValue := hexValue?_digitChar (n := b.toNat % 16) (by omega)
    show percentDecoded? ('%' :: (Nat.digitChar (b.toNat / 16)).toUpper ::
      (Nat.digitChar (b.toNat % 16)).toUpper :: rest) = _
    rw [percentDecoded?_triple highValue lowValue, Nat.div_add_mod, UInt8.ofNat_toNat]

/-- A percent-encoded name is read as the bytes of the name. -/
theorem percentDecoded?_percentEncoded (name : String) :
    percentDecoded? (percentEncoded name).toList = some (Digest.utf8 name) := by
  rw [percentEncoded, String.toList_ofList]
  induction Digest.utf8 name with
  | nil => rfl
  | cons b bytes ih =>
      rw [List.flatMap_cons, percentDecoded?_encodeByte_append, ih, Option.map_some]

theorem percentEncoded_injective {name other : String}
    (same : percentEncoded name = percentEncoded other) : name = other := by
  apply Text.utf8_injective
  apply Option.some.inj
  rw [← percentDecoded?_percentEncoded, same, percentDecoded?_percentEncoded]

end Reading

/-! ### Resources -/

namespace Vocabulary

variable {vocabulary : Vocabulary} {name other : String}

theorem resource_of_bare (bare : isAbsolute name = false) :
    vocabulary.resource name = iriToken (vocabulary.base ++ "/" ++ percentEncoded name) := by
  rw [resource, bare, if_neg Bool.false_ne_true]

/-- The token of a bare name is that of one bare name. -/
theorem resource_eq_iff_of_bare (bare : isAbsolute name = false)
    (otherBare : isAbsolute other = false) :
    vocabulary.resource name = vocabulary.resource other ↔ name = other := by
  constructor
  · intro same
    rw [resource_of_bare bare, resource_of_bare otherBare] at same
    have sameIri := NTriples.iriToken_injective same
    exact percentEncoded_injective ((String.append_right_inj _).mp sameIri)
  · intro same
    rw [same]

end Vocabulary

namespace NTriples

/-- In a namespace without forbidden characters every bare name, whatever its characters, becomes a
token that fits every place of a statement, and different bare names become different tokens. -/
theorem bare_names_are_distinct_iris (vocabulary : Vocabulary) (clean : IsClean vocabulary.base)
    (name : String) (bare : isAbsolute name = false) :
    (∀ index place, check index place (vocabulary.resource name) = .ok ()) ∧
    ∀ other, isAbsolute other = false → name ≠ other →
      vocabulary.resource name ≠ vocabulary.resource other := by
  constructor
  · intro index place
    have cleanName : IsCleanName name := by
      intro absolute
      exact absurd absolute (by rw [bare]; decide)
    exact check_eq_ok_iff.mpr ((fault?_resource clean).mpr cleanName)
  · intro other otherBare different same
    exact different ((Vocabulary.resource_eq_iff_of_bare bare otherBare).mp same)

/-- A percent sign is not taken for an encoded one. -/
theorem bare_names_are_distinct_iris_percent :
    IsClean (Vocabulary.of defaultNamespace).base ∧ isAbsolute "50% off" = false ∧
    isAbsolute "50%25 off" = false ∧
    check 0 .subject ((Vocabulary.of defaultNamespace).resource "50% off") = .ok () ∧
    (Vocabulary.of defaultNamespace).resource "50% off" ≠
      (Vocabulary.of defaultNamespace).resource "50%25 off" := by
  have clean : IsClean (Vocabulary.of defaultNamespace).base := by decide +kernel
  have bare : isAbsolute "50% off" = false := by decide +kernel
  have otherBare : isAbsolute "50%25 off" = false := by decide +kernel
  obtain ⟨fits, distinct⟩ :=
    bare_names_are_distinct_iris (Vocabulary.of defaultNamespace) clean "50% off" bare
  exact ⟨clean, bare, otherBare, fits 0 .subject, distinct "50%25 off" otherBare (by decide)⟩

end NTriples

end RowTriples
