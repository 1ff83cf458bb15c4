import Mathlib.Algebra.Group.Nat.Defs
import Mathlib.Data.List.TakeWhile
import RowTriples.Proofs.Decimal.Numerals
import RowTriples.Proofs.Identifier.Position
import RowTriples.Time.Pattern
import RowTriples.Time.Text
/-!
# Reading the parts of written timestamps

A number that is filled up with zeros to the width of its field is read back by either kind of part,
whatever stands behind it. A year outside of four digits is read back by its sign, if no digit
stands behind it. A fraction is read back at the end of a text. So are whole dates and times of day.
-/

namespace RowTriples

namespace Time

/-! ### Padded numbers -/

section Padded

variable {width n least : Nat} {rest : List Char}

theorem isDigit_of_mem_padded {c : Char} (member : c ∈ padded width n) : c.isDigit = true := by
  rcases List.mem_append.mp member with zero | digit
  · rw [List.eq_of_mem_replicate zero]
    rfl
  · exact Nat.isDigit_of_mem_toDigits (by decide) (by decide) digit

theorem padded_ne_nil : padded width n ≠ [] := by
  simp [padded, Nat.toDigits_ne_nil]

theorem length_padded (positive : 0 < width) (small : n < 10 ^ width) :
    (padded width n).length = width := by
  have short := (Nat.length_toDigits_le_iff (by decide) positive).mpr small
  simp only [padded, List.length_append, List.length_replicate]
  omega

theorem valueFrom_padded : Decimal.valueFrom 0 (padded width n) = n := by
  rw [Decimal.valueFrom_eq_ofDigitChars, padded, Nat.ofDigitChars_append,
    Nat.ofDigitChars_replicate_zero, Nat.mul_zero, Nat.ofDigitChars_ten_toDigits]

theorem takeWhile_padded : (padded width n).takeWhile Char.isDigit = padded width n :=
  List.takeWhile_eq_self_iff.mpr fun _ => isDigit_of_mem_padded

/-- A number of the full width is read whatever stands behind it. -/
theorem readNumber?_padded_append (positive : 0 < width) (small : n < 10 ^ width)
    (enough : least ≤ width) :
    readNumber? least width (padded width n ++ rest) = some (n, rest) := by
  have length := length_padded positive small
  have taken : (padded width n ++ rest).take width = padded width n := List.take_left' length
  have dropped : (padded width n ++ rest).drop width = rest := List.drop_left' length
  simp only [readNumber?, taken, takeWhile_padded, length, Nat.not_lt.mpr enough, if_false,
    valueFrom_padded, dropped]

/-- A number of any length is read if no digit stands behind it. -/
theorem readLongNumber?_padded_append (border : ∀ c ∈ rest.head?, c.isDigit = false) :
    readLongNumber? (padded width n ++ rest) = some (n, rest) := by
  have digits : (padded width n ++ rest).takeWhile Char.isDigit = padded width n :=
    takeWhile_number (fun _ => isDigit_of_mem_padded) border
  have some_digit : ¬(padded width n).length < 1 :=
    Nat.not_lt.mpr (List.length_pos_iff.mpr padded_ne_nil)
  simp only [readLongNumber?, readNumber?, List.take_length, digits, some_digit, if_false,
    valueFrom_padded, List.drop_left]

end Padded

/-! ### Fields -/

section Fields

variable {fields : Fields} {field : Field} {n : Nat} {rest : List Char}

theorem isBlank_of_isDigit {c : Char} (digit : c.isDigit = true) : Text.isBlank c = false := by
  obtain ⟨lower, upper⟩ : 48 ≤ c.toNat ∧ c.toNat ≤ 57 := Char.isDigit_iff_toNat.mp digit
  simp only [Text.isBlank, Bool.or_eq_false_iff, Bool.and_eq_false_iff, decide_eq_false_iff_not,
    beq_eq_false_iff_ne]
  omega

theorem skipBlanks_of_head {c : Char} (visible : Text.isBlank c = false) :
    skipBlanks (c :: rest) = c :: rest := by
  simp [skipBlanks, visible]

/-- A number in front of a text, in one of its digits and the others. -/
theorem exists_padded_cons (width n : Nat) :
    ∃ c ds, padded width n = c :: ds ∧ c.isDigit = true := by
  cases h : padded width n with
  | nil => exact absurd h padded_ne_nil
  | cons c ds => exact ⟨c, ds, rfl, isDigit_of_mem_padded (h ▸ List.mem_cons_self)⟩

theorem readField?_of_isDigit {c : Char} {cs : List Char} (digit : c.isDigit = true) :
    readField? fields field (c :: cs) =
      (readNumber? 1 field.width (c :: cs)).map fun (n, rest) => (fields.set field n, rest) := by
  unfold readField?
  split
  next same =>
    cases same
    exact absurd digit (by decide)
  next same =>
    cases same
    exact absurd digit (by decide)
  next => rfl

/-- A kind of part by which every field is read back from its full width. -/
def ReadsPadded (part : Field → Part) : Prop :=
  ∀ (fields : Fields) (field : Field) (n : Nat) (rest : List Char), n < 10 ^ field.width →
    (part field).read? fields (padded field.width n ++ rest) = some (fields.set field n, rest)

theorem Field.width_pos : 0 < field.width := by
  cases field <;> decide

theorem readsPadded_digits : ReadsPadded .digits := by
  intro fields field n rest small
  rw [Part.read?, readNumber?_padded_append Field.width_pos small Nat.le.refl]
  rfl

theorem readsPadded_number : ReadsPadded .number := by
  intro fields field n rest small
  obtain ⟨c, ds, digits, digit⟩ := exists_padded_cons field.width n
  have number : readNumber? 1 field.width (padded field.width n ++ rest) = some (n, rest) :=
    readNumber?_padded_append Field.width_pos small Field.width_pos
  rw [digits, List.cons_append] at number ⊢
  rw [Part.read?, skipBlanks_of_head (isBlank_of_isDigit digit), readField?_of_isDigit digit,
    number]
  rfl

/-- The year is read back in front of a hyphen. -/
def ReadsYear (part : Field → Part) (year : Int) : Prop :=
  ∀ (fields : Fields) (rest : List Char),
    (part .year).read? fields (yearText year ++ '-' :: rest) =
      some ({ fields with year }, '-' :: rest)

theorem ReadsPadded.year {part : Field → Part} (reads : ReadsPadded part) {year : Int}
    (plain : 0 ≤ year ∧ year ≤ 9999) : ReadsYear part year := by
  intro fields rest
  have small : year.natAbs < 10 ^ Field.year.width := by
    change year.natAbs < 10000
    omega
  have same : (year.natAbs : Int) = year := Int.natAbs_of_nonneg plain.1
  have read := reads fields .year year.natAbs ('-' :: rest) small
  rw [Fields.set, same] at read
  rw [yearText, if_pos plain]
  exact read

/-- Every year is read back by its sign or by its four digits. -/
theorem readsYear_number (year : Int) : ReadsYear .number year := by
  by_cases plain : 0 ≤ year ∧ year ≤ 9999
  · exact readsPadded_number.year plain
  · intro fields rest
    have long : readLongNumber? (padded 4 year.natAbs ++ '-' :: rest) =
        some (year.natAbs, '-' :: rest) := readLongNumber?_padded_append (by simp)
    rw [yearText, if_neg plain]
    split
    next negative =>
      have same : -(year.natAbs : Int) = year := by omega
      rw [Part.read?, List.cons_append, skipBlanks_of_head (by decide)]
      simp only [readField?, long, Option.map_some, same]
    next =>
      have same : (year.natAbs : Int) = year := by omega
      rw [Part.read?, List.cons_append, skipBlanks_of_head (by decide)]
      simp only [readField?, long, Option.map_some, same]

/-- A year with a sign is no run of digits. -/
theorem read?_digits_of_signed {year : Int} (signed : ¬(0 ≤ year ∧ year ≤ 9999)) :
    (Part.digits .year).read? fields (yearText year ++ rest) = none := by
  rw [yearText, if_neg signed]
  split <;> rfl

end Fields

/-! ### Dates and times of day -/

namespace Pattern

variable {fields fields' : Fields} {part : Part} {pattern : Pattern} {cs rest : List Char}

theorem readFrom?_cons (read : part.read? fields cs = some (fields', rest)) :
    readFrom? fields (part :: pattern) cs = readFrom? fields' pattern rest := by
  rw [readFrom?, read]

theorem readFrom?_cons_of_none (unread : part.read? fields cs = none) :
    readFrom? fields (part :: pattern) cs = none := by
  rw [readFrom?, unread]

theorem readFrom?_mark {c : Char} {characters : List Char} (allowed : c ∈ characters) :
    readFrom? fields (.mark characters :: pattern) (c :: rest) = readFrom? fields pattern rest :=
  readFrom?_cons (if_pos allowed)

theorem readFrom?_blanks (skipped : skipBlanks cs = rest) :
    readFrom? fields (.blanks :: pattern) cs = readFrom? fields pattern rest := by
  rw [readFrom?_cons rfl, skipped]

def dateBy (part : Field → Part) : Pattern :=
  [part .year, .mark ['-'], part .month, .mark ['-'], part .day]

/-- A time of day without fraction. -/
def clockBy (part : Field → Part) : Pattern :=
  [part .hour, .mark [':'], part .minute, .mark [':'], part .second]

end Pattern

namespace Fields

def withDate (fields : Fields) (d : Date) : Fields :=
  { fields with year := d.year, month := d.month, day := d.day }

/-- The fields with what is written of a time of day in front of its fraction. -/
def withClock (fields : Fields) (c : Clock) : Fields :=
  { fields with hour := c.hour, minute := c.minute, second := c.second + c.nano / nanosPerSecond }

end Fields

theorem monthLength_le (year : Int) (month : Nat) : monthLength year month ≤ 31 := by
  unfold monthLength
  split
  · split <;> decide
  · split <;> decide

section Wholes

variable {fields : Fields} {part : Field → Part} {pattern : Pattern} {rest : List Char}

/-- A date is read back whatever stands behind it. -/
theorem readFrom?_date (reads : ReadsPadded part) {d : Date} (year : ReadsYear part d.year) :
    Pattern.readFrom? fields (Pattern.dateBy part ++ pattern) (d.chars ++ rest) =
      Pattern.readFrom? (fields.withDate d) pattern rest := by
  have month (fields : Fields) (rest : List Char) : (part .month).read? fields
      (padded 2 d.month ++ rest) = some ({ fields with month := d.month }, rest) :=
    reads fields .month d.month rest (Nat.lt_of_le_of_lt d.month_range.2 (by decide))
  have day (fields : Fields) (rest : List Char) : (part .day).read? fields
      (padded 2 d.day ++ rest) = some ({ fields with day := d.day }, rest) := by
    have bound := Nat.le_trans d.day_range.2 (monthLength_le d.year d.month)
    exact reads fields .day d.day rest (Nat.lt_of_le_of_lt bound (by decide))
  simp only [Date.chars, Pattern.dateBy, List.append_assoc, List.cons_append, List.nil_append]
  rw [Pattern.readFrom?_cons (year fields _), Pattern.readFrom?_mark List.mem_cons_self,
    Pattern.readFrom?_cons (month _ _), Pattern.readFrom?_mark List.mem_cons_self,
    Pattern.readFrom?_cons (day _ _)]
  rfl

/-- A time of day is read back whatever stands behind it, a leap second as second sixty. -/
theorem readFrom?_clock (reads : ReadsPadded part) (c : Clock) :
    Pattern.readFrom? fields (Pattern.clockBy part ++ pattern) (c.chars ++ rest) =
      Pattern.readFrom? (fields.withClock c) pattern rest := by
  have hour (fields : Fields) (rest : List Char) : (part .hour).read? fields
      (padded 2 c.hour ++ rest) = some ({ fields with hour := c.hour }, rest) :=
    reads fields .hour c.hour rest (Nat.lt_trans c.hour_lt (by decide))
  have minute (fields : Fields) (rest : List Char) : (part .minute).read? fields
      (padded 2 c.minute ++ rest) = some ({ fields with minute := c.minute }, rest) :=
    reads fields .minute c.minute rest (Nat.lt_trans c.minute_lt (by decide))
  have second (fields : Fields) (rest : List Char) : (part .second).read? fields
      (padded 2 (c.second + c.nano / nanosPerSecond) ++ rest) =
        some ({ fields with second := c.second + c.nano / nanosPerSecond }, rest) := by
    have leap : c.nano / nanosPerSecond < 2 :=
      (Nat.div_lt_iff_lt_mul (by decide)).mpr c.nano_lt
    have small : c.second + c.nano / nanosPerSecond < 100 := by
      have := c.second_lt
      omega
    exact reads fields .second _ rest small
  simp only [Clock.chars, Pattern.clockBy, List.append_assoc, List.cons_append, List.nil_append]
  rw [Pattern.readFrom?_cons (hour _ _), Pattern.readFrom?_mark List.mem_cons_self,
    Pattern.readFrom?_cons (minute _ _), Pattern.readFrom?_mark List.mem_cons_self,
    Pattern.readFrom?_cons (second _ _)]
  rfl

/-- A run of up to nine digits behind the point. -/
theorem readNanos?_padded {width n : Nat} (positive : 0 < width) (short : width ≤ 9)
    (small : n < 10 ^ width) :
    readNanos? (padded width n) = some (n * 10 ^ (9 - width), []) := by
  have length := length_padded positive small
  have all : (padded width n).dropWhile Char.isDigit = [] :=
    List.dropWhile_eq_nil_iff.mpr fun _ => isDigit_of_mem_padded
  have some_digit : (padded width n).isEmpty = false := by simp [padded_ne_nil]
  simp only [readNanos?, takeWhile_padded, some_digit, all, length,
    List.take_of_length_le (length.trans_le short), valueFrom_padded]
  rfl

theorem read?_fraction_padded {width n : Nat} (positive : 0 < width) (short : width ≤ 9)
    (small : n < 10 ^ width) : Part.fraction.read? fields ('.' :: padded width n) =
      some ({ fields with nano := n * 10 ^ (9 - width) }, []) := by
  simp only [Part.read?, readNanos?_padded positive short small, Option.map_some]

/-- A fraction is read back at the end of a text. -/
theorem read?_fraction {nano : Nat} (unset : fields.nano = 0) :
    Part.fraction.read? fields (fractionText nano) =
      some ({ fields with nano := nano % nanosPerSecond }, []) := by
  have small : nano % nanosPerSecond < 10 ^ 9 := Nat.mod_lt _ (by decide)
  unfold fractionText
  generalize nano % nanosPerSecond = rest at small
  simp only
  split
  next none =>
    rw [none, ← unset]
    rfl
  next =>
    split
    next whole =>
      have same : rest / 1000000 * 10 ^ (9 - 3) = rest := by omega
      rw [read?_fraction_padded (by decide) (by decide) (by omega), same]
    next =>
      split
      next whole =>
        have same : rest / 1000 * 10 ^ (9 - 6) = rest := by omega
        rw [read?_fraction_padded (by decide) (by decide) (by omega), same]
      next => rw [read?_fraction_padded (by decide) (by decide) small, Nat.pow_zero, Nat.mul_one]

/-- Second sixty and the fraction behind it give the leap second back, if it is a proper one. -/
theorem timestamp?_fields {t : Timestamp} (proper : t.clock.IsProper) :
    Fields.timestamp? { (({} : Fields).withDate t.date).withClock t.clock with
      nano := t.clock.nano % nanosPerSecond } = some t := by
  have clock := Clock.of?_parts proper
  rcases Nat.lt_or_ge t.clock.nano nanosPerSecond with ordinary | leap
  · have second : t.clock.second ≠ 60 := Nat.ne_of_lt t.clock.second_lt
    simp [Fields.timestamp?, Fields.withDate, Fields.withClock, Nat.div_eq_of_lt ordinary,
      Nat.mod_eq_of_lt ordinary, second, clock]
  · have one : t.clock.nano / nanosPerSecond = 1 := by
      have below := t.clock.nano_lt
      unfold nanosPerSecond at leap below ⊢
      omega
    have whole : nanosPerSecond + t.clock.nano % nanosPerSecond = t.clock.nano := by
      have split := Nat.div_add_mod t.clock.nano nanosPerSecond
      rwa [one, Nat.mul_one] at split
    rw [proper leap] at clock
    simp [Fields.timestamp?, Fields.withDate, Fields.withClock, one, proper leap, whole, clock]

end Wholes

end Time

end RowTriples
