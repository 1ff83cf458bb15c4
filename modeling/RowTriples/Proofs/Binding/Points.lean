import RowTriples.Proofs.Binding.Splitting
import RowTriples.Proofs.Text.Words
/-!
# Points from texts

Two numbers are written in two cells, or as a pair in one cell, in either order. A pair may have
white space and parentheses or brackets around it, and white space and commas between its numbers.
However it is laid out, the point is that of the two numbers, longitude first, and there is none if
one of them is no finite number.
-/

namespace RowTriples

def Decimal.IsFiniteNumber (text : String) (x : Float) : Prop :=
  Decimal.readFloat text = .ok x ∧ x.isFinite = true

/-! ### Layouts of pairs -/

namespace Binding

/-- White space or a comma. -/
def isBetween (c : Char) : Bool :=
  Text.isBlank c || c = ','

/-- A character that belongs to the layout of a pair and to none of its numbers. -/
def isAround (c : Char) : Bool :=
  isBetween c || isEnclosing c

/-- No character of the text belongs to a layout. The text may be empty. -/
def IsToken (cs : List Char) : Prop :=
  ∀ c ∈ cs, isAround c = false

/-- What is written around and between the two texts of a pair. -/
structure PairLayout where
  outerStart : List Char
  opening : List Char
  innerStart : List Char
  separator : List Char
  innerEnd : List Char
  closing : List Char
  outerEnd : List Char
  outerStart_blank : ∀ c ∈ outerStart, Text.isBlank c = true
  opening_encloses : ∀ c ∈ opening, isEnclosing c = true
  innerStart_blank : ∀ c ∈ innerStart, Text.isBlank c = true
  separator_nonempty : separator ≠ []
  separator_between : ∀ c ∈ separator, isBetween c = true
  innerEnd_blank : ∀ c ∈ innerEnd, Text.isBlank c = true
  closing_encloses : ∀ c ∈ closing, isEnclosing c = true
  outerEnd_blank : ∀ c ∈ outerEnd, Text.isBlank c = true

section Characters

variable {c : Char}

theorem isEnclosing_of_isBetween (between : isBetween c = true) : isEnclosing c = false := by
  have none : ∀ d ∈ ['(', ')', '[', ']'], isBetween d = false := by
    simp [isBetween, Text.isBlank]
  have other : ∀ d ∈ ['(', ')', '[', ']'], c ≠ d := by
    rintro d member rfl
    rw [none c member] at between
    cases between
  simp only [List.forall_mem_cons] at other
  simp [isEnclosing, other]

theorem isBetween_of_isBlank (blank : Text.isBlank c = true) : isBetween c = true := by
  simp [isBetween, blank]

theorem isAround_of_isBetween (between : isBetween c = true) : isAround c = true := by
  simp [isAround, between]

theorem isAround_of_isBlank (blank : Text.isBlank c = true) : isAround c = true :=
  isAround_of_isBetween (isBetween_of_isBlank blank)

theorem isAround_of_isEnclosing (encloses : isEnclosing c = true) : isAround c = true := by
  simp [isAround, encloses]

end Characters

namespace PairLayout

variable (layout : PairLayout) (first second : List Char)

/-- What stands between the enclosing characters. -/
def core : List Char :=
  layout.innerStart ++ (first ++ layout.separator ++ second) ++ layout.innerEnd

def chars : List Char :=
  layout.outerStart ++ (layout.opening ++ layout.core first second ++ layout.closing) ++
    layout.outerEnd

def text (layout : PairLayout) (first second : String) : String :=
  String.ofList (layout.chars first.toList second.toList)

variable {layout first second}

theorem isEnclosing_of_mem_core (token : IsToken first) (token' : IsToken second) :
    ∀ c ∈ layout.core first second, isEnclosing c = false := by
  have ofToken {cs : List Char} (token : IsToken cs) : ∀ c ∈ cs, isEnclosing c = false :=
    fun c member => (Bool.or_eq_false_iff.mp (token c member)).2
  have ofBlank {cs : List Char} (blank : ∀ c ∈ cs, Text.isBlank c = true) :
      ∀ c ∈ cs, isEnclosing c = false :=
    fun c member => isEnclosing_of_isBetween (isBetween_of_isBlank (blank c member))
  have separator : ∀ c ∈ layout.separator, isEnclosing c = false :=
    fun c member => isEnclosing_of_isBetween (layout.separator_between c member)
  simp only [core, List.forall_mem_append]
  exact ⟨⟨ofBlank layout.innerStart_blank, ⟨ofToken token, separator⟩, ofToken token'⟩,
    ofBlank layout.innerEnd_blank⟩

/-- No enclosing character is left: what is trimmed is a part of what stands within the outer white
space, so it consists of enclosing characters around others as well. -/
theorem isEnclosing_of_mem_inner (token : IsToken first) (token' : IsToken second) :
    ∀ c ∈ Text.dropAroundWhile isEnclosing (Text.trim (layout.chars first second)),
      isEnclosing c = false := by
  have part : (Text.trim (layout.chars first second)).Sublist
      (layout.opening ++ layout.core first second ++ layout.closing) := by
    rw [Text.trim, chars, Text.dropAroundWhile_append layout.outerStart_blank layout.outerEnd_blank]
    exact Text.dropAroundWhile_sublist
  obtain ⟨front, closing, same, inFront, inClosing⟩ := List.sublist_append_iff.mp part
  obtain ⟨opening, core, rfl, inOpening, inCore⟩ := List.sublist_append_iff.mp inFront
  rw [same, Text.dropAroundWhile_append
    (fun c member => layout.opening_encloses c (inOpening.subset member))
    (fun c member => layout.closing_encloses c (inClosing.subset member))]
  exact fun c member => isEnclosing_of_mem_core token token' c
    (inCore.subset (Text.dropAroundWhile_sublist.subset member))

/-- The words of the pair are its two texts, as far as they are not empty. -/
theorem words_chars (token : IsToken first) (token' : IsToken second) :
    Text.words isAround (layout.chars first second) = [first, second].filter (!·.isEmpty) := by
  rw [chars, Text.words_append_right fun c h => isAround_of_isBlank (layout.outerEnd_blank c h),
    Text.words_append_left fun c h => isAround_of_isBlank (layout.outerStart_blank c h),
    Text.words_append_right fun c h => isAround_of_isEnclosing (layout.closing_encloses c h),
    Text.words_append_left fun c h => isAround_of_isEnclosing (layout.opening_encloses c h),
    core, Text.words_append_right fun c h => isAround_of_isBlank (layout.innerEnd_blank c h),
    Text.words_append_left fun c h => isAround_of_isBlank (layout.innerStart_blank c h),
    Text.words_append_between layout.separator_nonempty
      fun c h => isAround_of_isBetween (layout.separator_between c h),
    Text.words_of_forall token, Text.words_of_forall token', ← List.filter_append]
  rfl

/-- So are the words that are read, since no enclosing character is left among them. -/
theorem words_inner (token : IsToken first) (token' : IsToken second) :
    Text.words isBetween
      (Text.dropAroundWhile isEnclosing (Text.trim (layout.chars first second))) =
      [first, second].filter (!·.isEmpty) := by
  have alike (c : Char)
      (member : c ∈ Text.dropAroundWhile isEnclosing (Text.trim (layout.chars first second))) :
      isBetween c = isAround c := by
    rw [isAround, isEnclosing_of_mem_inner token token' c member, Bool.or_false]
  rw [Text.words_congr alike, Text.words_dropAroundWhile (fun _ => isAround_of_isEnclosing),
    Text.trim, Text.words_dropAroundWhile (fun _ => isAround_of_isBlank), words_chars token token']

end PairLayout

/-! ### The numbers of a pair -/

section Numbers

variable {first second : String}

theorem coordinate?_nil : coordinate? [] = none := by
  decide +kernel

/-- The numbers of a pair are read off its two texts, however they are laid out. -/
theorem coordinates?_text (token : IsToken first.toList) (token' : IsToken second.toList)
    (layout : PairLayout) (order : CoordinateOrder) :
    coordinates? order (layout.text first second) = (do
      let a ← coordinate? first.toList
      let b ← coordinate? second.toList
      match order with
      | .latitudeFirst => return (a, b)
      | .longitudeFirst => return (b, a)) := by
  have words := @PairLayout.words_inner layout first.toList second.toList token token'
  rw [coordinates?, PairLayout.text, String.toList_ofList]
  unfold isBetween at words
  rw [words]
  cases first.toList with
  | nil =>
      rw [coordinate?_nil]
      cases second.toList <;> rfl
  | cons c cs =>
      cases second.toList with
      | nil =>
          rw [coordinate?_nil]
          cases coordinate? (c :: cs) <;> rfl
      | cons d ds => rfl

/-- A text without white space is a coordinate if it is a finite number. -/
theorem coordinate?_eq_some_iff (token : IsToken first.toList) {x : Float} :
    coordinate? first.toList = some x ↔ Decimal.IsFiniteNumber first x := by
  have visible : ∀ c ∈ first.toList, Text.isBlank c = false := by
    intro c member
    have none := token c member
    simp only [isAround, isBetween, Bool.or_eq_false_iff] at none
    exact none.1.1
  have same : String.ofList (Text.trim first.toList) = first := by
    rw [Text.trim, Text.dropAroundWhile_of_forall visible, String.ofList_toList]
  rw [coordinate?, same, Decimal.IsFiniteNumber]
  cases Decimal.readFloat first with
  | error => simp
  | ok y =>
      by_cases finite : y.isFinite = true
      · simp only [finite, if_true, Option.some.injEq, Except.ok.injEq]
        constructor
        · rintro rfl
          exact ⟨rfl, finite⟩
        · exact And.left
      · simp only [finite]
        constructor
        · nofun
        · rintro ⟨same, finite'⟩
          cases same
          exact absurd finite' finite

end Numbers

/-! ### Declared points -/

section Declarations

variable (name : String)

theorem ofDeclaration_point (latitude longitude : String) :
    ofDeclaration name "GeoJSONFromLatLon"
      (.object [("Latitude", .string latitude), ("Longitude", .string longitude)]) =
      .ok (.point latitude longitude) := rfl

theorem ofDeclaration_pairedPoint_latitudeFirst (column : String) :
    ofDeclaration name "GeoJSONFromCombinedLatLon" (.object [("LatLon", .string column)]) =
      .ok (.pairedPoint column .latitudeFirst) := rfl

theorem ofDeclaration_pairedPoint_longitudeFirst (column : String) :
    ofDeclaration name "GeoJSONFromCombinedLonLat" (.object [("LonLat", .string column)]) =
      .ok (.pairedPoint column .longitudeFirst) := rfl

end Declarations

/-- The point of two texts, null if one of them is no coordinate. -/
def pointOf (latitude longitude : String) : Datum :=
  (do
    let lat ← coordinate? latitude.toList
    let lon ← coordinate? longitude.toList
    return Datum.object (Geometry.point lon lat)).getD .null

section Points

variable {row : Row} {latitude longitude : String}

theorem evaluate_point {latitudeColumn longitudeColumn : String}
    (lat : row.columnText? latitudeColumn = some latitude)
    (lon : row.columnText? longitudeColumn = some longitude) :
    (point latitudeColumn longitudeColumn).evaluate row = pointOf latitude longitude := by
  simp [evaluate, value?, lat, lon, pointOf]

theorem evaluate_pairedPoint_latitudeFirst {column : String} {layout : PairLayout}
    (token : IsToken latitude.toList) (token' : IsToken longitude.toList)
    (read : row.columnText? column = some (layout.text latitude longitude)) :
    (pairedPoint column .latitudeFirst).evaluate row = pointOf latitude longitude := by
  simp only [evaluate, value?, read, Option.bind_eq_bind, Option.bind_some,
    coordinates?_text token token', pointOf]
  cases coordinate? latitude.toList <;> cases coordinate? longitude.toList <;> rfl

theorem evaluate_pairedPoint_longitudeFirst {column : String} {layout : PairLayout}
    (token : IsToken latitude.toList) (token' : IsToken longitude.toList)
    (read : row.columnText? column = some (layout.text longitude latitude)) :
    (pairedPoint column .longitudeFirst).evaluate row = pointOf latitude longitude := by
  simp only [evaluate, value?, read, Option.bind_eq_bind, Option.bind_some,
    coordinates?_text token' token, pointOf]
  cases coordinate? latitude.toList <;> cases coordinate? longitude.toList <;> rfl

theorem pointOf_of_isFiniteNumber (token : IsToken latitude.toList)
    (token' : IsToken longitude.toList) {lat lon : Float}
    (first : Decimal.IsFiniteNumber latitude lat) (second : Decimal.IsFiniteNumber longitude lon) :
    pointOf latitude longitude = .object (Geometry.point lon lat) := by
  rw [pointOf, (coordinate?_eq_some_iff token).mpr first,
    (coordinate?_eq_some_iff token').mpr second]
  rfl

/-- There is no point exactly if one of the texts is no finite number. -/
theorem pointOf_eq_null_iff (token : IsToken latitude.toList) (token' : IsToken longitude.toList) :
    pointOf latitude longitude = .null ↔
      (∀ x, ¬Decimal.IsFiniteNumber latitude x) ∨ ∀ x, ¬Decimal.IsFiniteNumber longitude x := by
  simp only [← coordinate?_eq_some_iff token, ← coordinate?_eq_some_iff token', pointOf]
  cases coordinate? latitude.toList with
  | none => simp
  | some lat =>
      cases coordinate? longitude.toList with
      | none => simp
      | some lon => simp

end Points

end Binding

/-- The functions that make a point of two texts agree. For texts without white space, commas,
parentheses and brackets it does not matter whether they stand in two cells or as a pair in one, in
which order, and how the pair is laid out: the point is the same, longitude first, and there is none
exactly if one of the texts is no finite number. -/
theorem points_agree (latitude longitude : String) (token : Binding.IsToken latitude.toList)
    (token' : Binding.IsToken longitude.toList) :
    ∃ datum : Datum,
      (∀ (row : Row) (name latitudeColumn longitudeColumn : String),
        row.get? latitudeColumn = some (.text latitude) →
        row.get? longitudeColumn = some (.text longitude) →
        Binding.declaredValue row name "GeoJSONFromLatLon"
          [("Latitude", .string latitudeColumn), ("Longitude", .string longitudeColumn)] =
            .ok datum) ∧
      (∀ (row : Row) (name column : String) (layout : Binding.PairLayout),
        row.get? column = some (.text (layout.text latitude longitude)) →
        Binding.declaredValue row name "GeoJSONFromCombinedLatLon" [("LatLon", .string column)] =
          .ok datum) ∧
      (∀ (row : Row) (name column : String) (layout : Binding.PairLayout),
        row.get? column = some (.text (layout.text longitude latitude)) →
        Binding.declaredValue row name "GeoJSONFromCombinedLonLat" [("LonLat", .string column)] =
          .ok datum) ∧
      (∀ lat lon, Decimal.IsFiniteNumber latitude lat → Decimal.IsFiniteNumber longitude lon →
        datum = .object [("type", .string "Point"),
          ("coordinates", .array [.ofFloat lon, .ofFloat lat])]) ∧
      (datum = .null ↔
        (∀ x, ¬Decimal.IsFiniteNumber latitude x) ∨ ∀ x, ¬Decimal.IsFiniteNumber longitude x) := by
  refine ⟨Binding.pointOf latitude longitude, ?_, ?_, ?_, ?_, ?_⟩
  · intro row name latitudeColumn longitudeColumn lat lon
    rw [Binding.declaredValue, Binding.ofDeclaration_point, Except.map, Binding.evaluate_point
      (Row.columnText?_of_text lat) (Row.columnText?_of_text lon)]
  · intro row name column layout cell
    rw [Binding.declaredValue, Binding.ofDeclaration_pairedPoint_latitudeFirst, Except.map,
      Binding.evaluate_pairedPoint_latitudeFirst token token' (Row.columnText?_of_text cell)]
  · intro row name column layout cell
    rw [Binding.declaredValue, Binding.ofDeclaration_pairedPoint_longitudeFirst, Except.map,
      Binding.evaluate_pairedPoint_longitudeFirst token token' (Row.columnText?_of_text cell)]
  · intro lat lon first second
    exact Binding.pointOf_of_isFiniteNumber token token' first second
  · exact Binding.pointOf_eq_null_iff token token'

/-- A pair in two kinds of parentheses, with the comma between two blanks. -/
def nestedLayout : Binding.PairLayout where
  outerStart := [' ']
  opening := ['(', '[']
  innerStart := []
  separator := [' ', ',', ' ']
  innerEnd := ['\t']
  closing := [']', ')']
  outerEnd := []
  outerStart_blank := by simp [Text.isBlank]
  opening_encloses := by simp [Binding.isEnclosing]
  innerStart_blank := by simp [Text.isBlank]
  separator_nonempty := nofun
  separator_between := by simp [Binding.isBetween, Text.isBlank]
  innerEnd_blank := by simp [Text.isBlank]
  closing_encloses := by simp [Binding.isEnclosing]
  outerEnd_blank := by simp [Text.isBlank]

/-- A place given in three ways. -/
theorem points_agree_nested :
    let row : Row := ⟨⟨["lat", "lon", "pair", "turned"]⟩, [.text "52.5", .text "13.25",
      .text " ([52.5 , 13.25\t])", .text " ([13.25 , 52.5\t])"], []⟩
    let place : Datum := .object [("type", .string "Point"),
      ("coordinates", .array [.ofFloat 13.25, .ofFloat 52.5])]
    Binding.IsToken "52.5".toList ∧ Binding.IsToken "13.25".toList ∧
    Binding.declaredValue row "place" "GeoJSONFromLatLon"
      [("Latitude", .string "lat"), ("Longitude", .string "lon")] = .ok place ∧
    Binding.declaredValue row "place" "GeoJSONFromCombinedLatLon" [("LatLon", .string "pair")] =
      .ok place ∧
    Binding.declaredValue row "place" "GeoJSONFromCombinedLonLat" [("LonLat", .string "turned")] =
      .ok place := by
  intro row place
  have token : Binding.IsToken "52.5".toList := by
    simp [Binding.IsToken, Binding.isAround, Binding.isBetween, Text.isBlank, Binding.isEnclosing]
  have token' : Binding.IsToken "13.25".toList := by
    simp [Binding.IsToken, Binding.isAround, Binding.isBetween, Text.isBlank, Binding.isEnclosing]
  have lat : Decimal.IsFiniteNumber "52.5" 52.5 := ⟨rfl, by decide +kernel⟩
  have lon : Decimal.IsFiniteNumber "13.25" 13.25 := ⟨rfl, by decide +kernel⟩
  obtain ⟨datum, apart, paired, turned, found, _⟩ := points_agree "52.5" "13.25" token token'
  rw [found _ _ lat lon] at apart paired turned
  exact ⟨token, token', apart row "place" "lat" "lon" rfl rfl,
    paired row "place" "pair" nestedLayout rfl, turned row "place" "turned" nestedLayout rfl⟩

end RowTriples
