import RowTriples.Entity.Statements
import RowTriples.Proofs.NTriples.Tokens
import RowTriples.Proofs.Text.Bytes
/-!
# Bare names and absolute IRIs

A plain name is one that percent-encoding leaves as it is. Where the namespace is an absolute IRI, a
plain name and its IRI in the namespace are two spellings of one name: they are the same resource,
and their local name, by which declared ranges are found, is the same. The local names agree for
every bare name, plain or not.
-/

namespace RowTriples

/-! ### Absolute IRIs -/

/-- A delimiter is found if and only if it occurs. -/
theorem Text.isSome_cut?_iff {delimiter cs : List Char} :
    (cut? delimiter cs).isSome = true ↔ ∃ before rest, cs = before ++ delimiter ++ rest := by
  constructor
  · intro found
    obtain ⟨⟨before, rest⟩, found⟩ := Option.isSome_iff_exists.mp found
    exact ⟨before, rest, eq_append_of_cut? found⟩
  · rintro ⟨before, rest, split⟩
    induction cs generalizing before with
    | nil =>
        have none : delimiter = [] := by simp_all
        simp [cut?, none]
    | cons c cs ih =>
        rw [cut?]
        cases here : after? delimiter (c :: cs) with
        | some rest => rfl
        | none =>
            cases before with
            | nil =>
                rw [List.nil_append] at split
                rw [after?_eq_some_iff.mpr split] at here
                cases here
            | cons first before =>
                rw [List.cons_append, List.cons_append] at split
                simpa using ih before (List.cons.inj split).2

theorem Text.dropStart?_append (start text : String) :
    dropStart? start (start ++ text) = some text := by
  rw [dropStart?, String.toList_append, after?_eq_some_iff.mpr rfl, Option.map_some,
    String.ofList_toList]

theorem isAbsolute_iff {name : String} :
    isAbsolute name = true ↔
      (∃ before rest, name.toList = before ++ "://".toList ++ rest) ∨
        ∃ rest, name.toList = "urn:".toList ++ rest := by
  rw [isAbsolute, Bool.or_eq_true, Text.contains, Text.isSome_cut?_iff, Text.startsWith_iff]

theorem colon_mem_of_isAbsolute {name : String} (absolute : isAbsolute name = true) :
    ':' ∈ name.toList := by
  rcases isAbsolute_iff.mp absolute with ⟨before, rest, shape⟩ | ⟨rest, shape⟩ <;> simp [shape]

/-- What begins with an absolute IRI is one. -/
theorem isAbsolute_append {base : String} (absolute : isAbsolute base = true) (name : String) :
    isAbsolute (base ++ name) = true := by
  rw [isAbsolute_iff, String.toList_append]
  rcases isAbsolute_iff.mp absolute with ⟨before, rest, shape⟩ | ⟨rest, shape⟩
  · exact .inl ⟨before, rest ++ name.toList, by rw [shape, List.append_assoc]⟩
  · exact .inr ⟨rest ++ name.toList, by rw [shape, List.append_assoc]⟩

/-! ### Plain names -/

/-- The name consists of letters and digits of ASCII, hyphens, underscores, points and tildes. -/
def IsPlainName (name : String) : Prop :=
  ∀ c ∈ name.toList, c.isAlphanum = true ∨ c ∈ ['-', '_', '.', '~']

instance (name : String) : Decidable (IsPlainName name) :=
  List.decidableBAll (fun c : Char => c.isAlphanum = true ∨ c ∈ ['-', '_', '.', '~']) name.toList

namespace IsPlainName

variable {name : String} (h : IsPlainName name)
include h

omit h in
theorem toNat_lt {c : Char} (plain : c.isAlphanum = true ∨ c ∈ ['-', '_', '.', '~']) :
    c.toNat < 128 := by
  rcases plain with letter | mark
  · have bound (last : Char) (small : last.toNat < 128) (least : c.val ≤ last.val) :
        c.toNat < 128 :=
      Nat.lt_of_le_of_lt (UInt32.le_iff_toNat_le.mp least) small
    have ranges : ((c.isUpper || c.isLower) || c.isDigit) = true := letter
    rw [Bool.or_eq_true, Bool.or_eq_true] at ranges
    rcases ranges with (upper | lower) | digit
    · exact bound 'Z' (by decide) (of_decide_eq_true upper).2
    · exact bound 'z' (by decide) (of_decide_eq_true (Bool.and_eq_true_iff.mp lower).2)
    · exact bound '9' (by decide) (of_decide_eq_true (Bool.and_eq_true_iff.mp digit).2)
  · simp only [List.mem_cons, List.not_mem_nil, or_false] at mark
    rcases mark with rfl | rfl | rfl | rfl <;> decide

omit h in
/-- A plain character stands for itself. -/
theorem encode_eq {c : Char} (plain : c.isAlphanum = true ∨ c ∈ ['-', '_', '.', '~']) :
    (String.utf8EncodeChar c).flatMap encodeByte = [c] := by
  have each : ∀ n < 128, (Char.ofNat n).isAlphanum = true ∨ Char.ofNat n ∈ ['-', '_', '.', '~'] →
      (String.utf8EncodeChar (Char.ofNat n)).flatMap encodeByte = [Char.ofNat n] := by
    decide +kernel
  have here := each c.toNat (toNat_lt plain)
  rw [Char.ofNat_toNat] at here
  exact here plain

theorem percentEncoded_eq : percentEncoded name = name := by
  have each : name.toList.flatMap (fun c => (String.utf8EncodeChar c).flatMap encodeByte) =
      name.toList.flatMap fun c => [c] :=
    List.flatMap_congr fun c member => encode_eq (h c member)
  rw [percentEncoded, Text.utf8_eq_flatMap, List.flatMap_assoc, each, List.flatMap_singleton',
    String.ofList_toList]

theorem not_isAbsolute : isAbsolute name = false := by
  rw [Bool.eq_false_iff]
  intro absolute
  rcases h ':' (colon_mem_of_isAbsolute absolute) with letter | mark
  · exact absurd letter (by decide)
  · exact absurd mark (by decide)

end IsPlainName

/-! ### Spellings -/

namespace Vocabulary

/-- The second name is the first one as it stands or, if that is plain, its IRI in the namespace. -/
def Spells (vocabulary : Vocabulary) (name name' : String) : Prop :=
  name' = name ∨ IsPlainName name ∧ name' = vocabulary.expand name

variable {vocabulary : Vocabulary} {name name' : String}

theorem expand_of_bare (bare : isAbsolute name = false) :
    vocabulary.expand name = vocabulary.base ++ "/" ++ name := by
  rw [expand, bare]
  rfl

section Absolute

variable (absolute : isAbsolute vocabulary.base = true)
include absolute

/-- A plain name is the same resource as its IRI. -/
theorem resource_expand (plain : IsPlainName name) :
    vocabulary.resource (vocabulary.expand name) = vocabulary.resource name := by
  have whole : isAbsolute (vocabulary.base ++ "/" ++ name) = true := by
    rw [String.append_assoc]
    exact isAbsolute_append absolute _
  rw [expand_of_bare plain.not_isAbsolute, resource, if_pos whole, resource,
    plain.not_isAbsolute, plain.percentEncoded_eq]
  rfl

/-- A name that is no IRI lies outside the namespace and so is its own local name. -/
theorem localName_of_bare (bare : isAbsolute name = false) : vocabulary.localName name = name := by
  cases start : Text.dropStart? vocabulary.base name with
  | none => rw [localName, start]; rfl
  | some rest =>
      obtain ⟨cs, begins, _⟩ := Option.map_eq_some_iff.mp start
      have split : name = vocabulary.base ++ String.ofList cs := by
        apply String.toList_inj.mp
        rw [String.toList_append, String.toList_ofList]
        exact Text.after?_eq_some_iff.mp begins
      have absoluteName : isAbsolute name = true := by
        rw [split]
        exact isAbsolute_append absolute _
      rw [bare] at absoluteName
      cases absoluteName

/-- A name that is no IRI is the local name of its IRI. -/
theorem localName_expand_of_bare (bare : isAbsolute name = false) :
    vocabulary.localName (vocabulary.expand name) = vocabulary.localName name := by
  rw [localName_of_bare absolute bare, expand_of_bare bare, localName, String.append_assoc,
    Text.dropStart?_append, Option.bind_some, Text.dropStart?_append]

/-- Both spellings are the same resource. -/
theorem Spells.resource_eq (h : vocabulary.Spells name name') :
    vocabulary.resource name' = vocabulary.resource name := by
  rcases h with rfl | ⟨plain, rfl⟩
  · rfl
  · exact resource_expand absolute plain

/-- Both spellings have the same local name. -/
theorem Spells.localName_eq (h : vocabulary.Spells name name') :
    vocabulary.localName name' = vocabulary.localName name := by
  rcases h with rfl | ⟨plain, rfl⟩
  · rfl
  · exact localName_expand_of_bare absolute plain.not_isAbsolute

end Absolute

end Vocabulary

end RowTriples
