import RowTriples.Binding.Evaluate
import RowTriples.Proofs.Time.Calendar
import RowTriples.Proofs.Time.LeapSeconds
import RowTriples.Proofs.Time.Reading
import RowTriples.Typing
/-!
# Timestamps survive their text

Eleven patterns are tried on a text. On the text of a timestamp all those fail that come before its
own: patterns with an offset from universal time find none at the end, and the mark between date and
time tells the others apart. So the text of a timestamp is read as what it tells, in every year and
with every fraction: that timestamp itself, unless it holds a leap second within a minute. The same
holds for the text with a space that is written for a number of seconds.
-/

namespace RowTriples

/-! ### Visible ends -/

namespace Text

def IsVisible (cs : List Char) : Prop :=
  ∀ c ∈ cs, isBlank c = false

section Visible

variable {front back : List Char}

theorem IsVisible.append (h : IsVisible front) (h' : IsVisible back) : IsVisible (front ++ back) :=
  List.forall_mem_append.mpr ⟨h, h'⟩

theorem IsVisible.cons {c : Char} (first : isBlank c = false) (h : IsVisible back) :
    IsVisible (c :: back) :=
  List.forall_mem_cons.mpr ⟨first, h⟩

theorem IsVisible.dropWhile_append (visible : IsVisible front) (nonempty : front ≠ []) :
    (front ++ back).dropWhile isBlank = front ++ back := by
  obtain ⟨c, front, rfl⟩ := List.exists_cons_of_ne_nil nonempty
  rw [List.cons_append, List.dropWhile_cons_of_neg (by simp [visible c List.mem_cons_self])]

/-- Nothing is trimmed off a text whose ends are visible. -/
theorem trim_append (visible : IsVisible front) (nonempty : front ≠ []) (middle : List Char)
    (visible' : IsVisible back) (nonempty' : back ≠ []) :
    trim (front ++ (middle ++ back)) = front ++ (middle ++ back) := by
  have reversed : (front ++ (middle ++ back)).reverse =
      back.reverse ++ (middle.reverse ++ front.reverse) := by simp
  have visible' : IsVisible back.reverse := fun c member => visible' c (List.mem_reverse.mp member)
  rw [trim, dropAroundWhile, visible.dropWhile_append nonempty, dropEndWhile, reversed,
    visible'.dropWhile_append (by simpa using nonempty'), ← reversed, List.reverse_reverse]

end Visible

end Text

namespace Time

open Text (IsVisible)

theorem isVisible_padded (width n : Nat) : IsVisible (padded width n) :=
  fun _ member => isBlank_of_isDigit (isDigit_of_mem_padded member)

theorem isVisible_yearText (year : Int) : IsVisible (yearText year) := by
  unfold yearText
  split
  · exact isVisible_padded _ _
  · exact .cons (by split <;> rfl) (isVisible_padded _ _)

theorem Date.isVisible_chars (d : Date) : IsVisible d.chars :=
  ((isVisible_yearText _).append (.cons rfl (isVisible_padded _ _))).append
    (.cons rfl (isVisible_padded _ _))

theorem Clock.isVisible_chars (c : Clock) : IsVisible c.chars :=
  ((isVisible_padded _ _).append (.cons rfl (isVisible_padded _ _))).append
    (.cons rfl (isVisible_padded _ _))

theorem isVisible_fractionText (nano : Nat) : IsVisible (fractionText nano) := by
  have pointed (width n : Nat) : IsVisible ('.' :: padded width n) :=
    .cons rfl (isVisible_padded width n)
  unfold fractionText
  simp only
  split
  · exact nofun
  · split
    · exact pointed 3 _
    · split
      · exact pointed 6 _
      · exact pointed 9 _

/-! ### Patterns on written timestamps -/

/-- Date and time with white space or nothing between them. -/
def Pattern.spaced : Pattern :=
  yearFirst '-' ++ [.blanks] ++ fractions

namespace Timestamp

/-- The characters of a timestamp with a mark between date and time. -/
def charsWith (mark : Char) (t : Timestamp) : List Char :=
  t.date.chars ++ mark :: (t.clock.chars ++ fractionText t.clock.nano)

variable (t : Timestamp) {mark : Char}

theorem trim_charsWith : Text.trim (t.charsWith mark) = t.charsWith mark := by
  have visible := t.clock.isVisible_chars.append (isVisible_fractionText t.clock.nano)
  exact Text.trim_append t.date.isVisible_chars (by simp [Date.chars]) [mark] visible
    (by simp [Clock.chars])

/-- What is read of the text of a timestamp. -/
def fields : Fields :=
  { (({} : Fields).withDate t.date).withClock t.clock with
    nano := t.clock.nano % nanosPerSecond }

/-- A date is read from the text by either kind of parts, if its year is. -/
theorem readFrom?_date_charsWith {part : Field → Part} (reads : ReadsPadded part)
    (year : ReadsYear part t.date.year) {pattern : Pattern} :
    (Pattern.dateBy part ++ pattern).read? (t.charsWith mark) =
      Pattern.readFrom? (({} : Fields).withDate t.date) pattern
        (mark :: (t.clock.chars ++ fractionText t.clock.nano)) :=
  readFrom?_date reads year

theorem readFrom?_clock_fraction {part : Field → Part} (reads : ReadsPadded part)
    {pattern : Pattern} :
    Pattern.readFrom? (({} : Fields).withDate t.date)
        (Pattern.clockBy part ++ .fraction :: pattern)
          (t.clock.chars ++ fractionText t.clock.nano) =
      Pattern.readFrom? t.fields pattern [] := by
  rw [readFrom?_clock reads, Pattern.readFrom?_cons (read?_fraction rfl)]
  rfl

/-- The internet format asks for an offset at the end, and for a year without sign. -/
theorem internet_read?_charsWith (known : mark ∈ ['T', 't', ' ']) :
    Pattern.internet.read? (t.charsWith mark) = none := by
  by_cases plain : 0 ≤ t.date.year ∧ t.date.year ≤ 9999
  · calc Pattern.internet.read? (t.charsWith mark)
      _ = Pattern.readFrom? (({} : Fields).withDate t.date)
            (.mark ['T', 't', ' '] :: (Pattern.clockBy .digits ++ [Part.fraction, .strictOffset]))
            (mark :: (t.clock.chars ++ fractionText t.clock.nano)) :=
          t.readFrom?_date_charsWith readsPadded_digits (readsPadded_digits.year plain)
      _ = Pattern.readFrom? t.fields [.strictOffset] [] := by
          rw [Pattern.readFrom?_mark known, t.readFrom?_clock_fraction readsPadded_digits]
      _ = none := rfl
  -- Four digits are asked for where the sign stands.
  · have signed : (Part.digits .year).read? {} (t.charsWith mark) = none := by
      rw [charsWith, Date.chars, List.append_assoc, List.append_assoc]
      exact read?_digits_of_signed plain
    exact Pattern.readFrom?_cons_of_none signed

theorem written_read?_charsWith : Pattern.written.read? (t.charsWith 'T') = some t.fields := by
  calc Pattern.written.read? (t.charsWith 'T')
    _ = Pattern.readFrom? (({} : Fields).withDate t.date)
          (.mark ['T'] :: (Pattern.clockBy .number ++ [Part.fraction]))
          ('T' :: (t.clock.chars ++ fractionText t.clock.nano)) :=
        t.readFrom?_date_charsWith readsPadded_number (readsYear_number t.date.year)
    _ = Pattern.readFrom? t.fields [] [] := by
        rw [Pattern.readFrom?_mark List.mem_cons_self,
          t.readFrom?_clock_fraction readsPadded_number]
    _ = some t.fields := rfl

theorem written_read?_charsWith_space : Pattern.written.read? (t.charsWith ' ') = none := by
  calc Pattern.written.read? (t.charsWith ' ')
    _ = Pattern.readFrom? (({} : Fields).withDate t.date)
          (.mark ['T'] :: (Pattern.clockBy .number ++ [Part.fraction]))
          (' ' :: (t.clock.chars ++ fractionText t.clock.nano)) :=
        t.readFrom?_date_charsWith readsPadded_number (readsYear_number t.date.year)
    _ = none := rfl

/-- What stands in the place of the hour is no number. -/
theorem spaced_read?_charsWith {pattern : Pattern} :
    (Pattern.spaced ++ pattern).read? (t.charsWith 'T') = none := by
  calc (Pattern.spaced ++ pattern).read? (t.charsWith 'T')
    _ = Pattern.readFrom? (({} : Fields).withDate t.date)
          (Part.blanks :: (Pattern.clockBy .number ++ .fraction :: pattern))
          ('T' :: (t.clock.chars ++ fractionText t.clock.nano)) :=
        t.readFrom?_date_charsWith readsPadded_number (readsYear_number t.date.year)
    _ = none := rfl

theorem spaced_read?_charsWith_space {pattern : Pattern} :
    (Pattern.spaced ++ pattern).read? (t.charsWith ' ') =
      Pattern.readFrom? t.fields pattern [] := by
  have skipped : skipBlanks (' ' :: (t.clock.chars ++ fractionText t.clock.nano)) =
      t.clock.chars ++ fractionText t.clock.nano := by
    rw [skipBlanks, List.dropWhile_cons_of_pos rfl]
    exact t.clock.isVisible_chars.dropWhile_append (by simp [Clock.chars])
  calc (Pattern.spaced ++ pattern).read? (t.charsWith ' ')
    _ = Pattern.readFrom? (({} : Fields).withDate t.date)
          (Part.blanks :: (Pattern.clockBy .number ++ .fraction :: pattern))
          (' ' :: (t.clock.chars ++ fractionText t.clock.nano)) :=
        t.readFrom?_date_charsWith readsPadded_number (readsYear_number t.date.year)
    _ = Pattern.readFrom? t.fields pattern [] := by
        rw [Pattern.readFrom?_blanks skipped, t.readFrom?_clock_fraction readsPadded_number]

/-! ### Texts read back -/

/-- A text that no pattern with an offset reads is read by the first pattern of wall clock times
that yields a timestamp. -/
theorem readInstant?_of_wallClock {text : String} {cs : List Char} {instant : Instant}
    (trimmed : Text.trim text.toList = cs) (internet : Pattern.internet.read? cs = none)
    (offset : (Pattern.spaced ++ [Part.offset]).read? cs = none)
    (found : (Pattern.wallClock.findSome? fun pattern => (pattern.read? cs).bind fun fields =>
      fields.timestamp?.map Instant.floating) = some instant) :
    readInstant? text = some instant := by
  have zoned : Pattern.zoned = [Pattern.internet, Pattern.spaced ++ [.offset]] := rfl
  simp only [readInstant?, trimmed, zoned, List.findSome?_cons, List.findSome?_nil, internet,
    offset, Option.bind_none, Option.none_or, found, Option.some_or]

/-- The text of a timestamp with a proper time of day is read as that timestamp. -/
theorem readInstant?_text_of_isProper (proper : t.clock.IsProper) :
    readInstant? t.text = some (.floating t) := by
  have trimmed : Text.trim t.text.toList = t.charsWith 'T' := by
    rw [text, String.toList_ofList, chars, List.append_assoc]
    exact t.trim_charsWith
  refine readInstant?_of_wallClock trimmed (t.internet_read?_charsWith (by decide))
    t.spaced_read?_charsWith ?_
  rw [Pattern.wallClock, List.findSome?_cons, t.written_read?_charsWith, Option.bind_some,
    fields, timestamp?_fields proper]
  rfl

/-- The text of a timestamp is read as the timestamp that it tells. -/
theorem readInstant?_text : readInstant? t.text = some (.floating t.told) := by
  rw [← t.text_told]
  exact t.told.readInstant?_text_of_isProper t.clock.isProper_told

theorem toList_spacedText (whole : t.clock.nano = 0) : t.spacedText.toList = t.charsWith ' ' := by
  have fraction : fractionText 0 = [] := rfl
  rw [spacedText, String.toList_ofList, charsWith, whole, fraction, List.append_nil]

/-- The text with a space is read as the timestamp, if that has whole seconds. -/
theorem readInstant?_spacedText (whole : t.clock.nano = 0) :
    readInstant? t.spacedText = some (.floating t) := by
  have trimmed : Text.trim t.spacedText.toList = t.charsWith ' ' := by
    rw [t.toList_spacedText whole]
    exact t.trim_charsWith
  refine readInstant?_of_wallClock trimmed (t.internet_read?_charsWith (by decide))
    t.spaced_read?_charsWith_space ?_
  have wallClock : Pattern.wallClock =
      Pattern.written :: (Pattern.spaced ++ []) :: Pattern.wallClock.drop 2 := rfl
  have proper : t.clock.IsProper := fun late => absurd late (by rw [whole]; decide)
  rw [wallClock, List.findSome?_cons, t.written_read?_charsWith_space, List.findSome?_cons,
    t.spaced_read?_charsWith_space, Pattern.readFrom?]
  simp [fields, timestamp?_fields proper]

end Timestamp

end Time

/-! ### Literals and bindings -/

open Time

namespace Typing

variable {schema : Schema} {vocabulary : Vocabulary} {property : String}

theorem literal_timestamp
    (declares : schema.declared? (vocabulary.localName property) = some "DateTime")
    (t : Timestamp) :
    literal schema vocabulary property (.timestamp t) = .ok (dateTime t.text) := by
  simp only [literal, declares]
  rfl

/-- A text that is read without an offset has the literal of what is read. -/
theorem literal_text_of_floating
    (declares : schema.declared? (vocabulary.localName property) = some "DateTime")
    {text : String} {t : Timestamp} (read : readInstant? text = some (.floating t)) :
    literal schema vocabulary property (.text text) = .ok (dateTime t.text) := by
  have range : Range.ofName "DateTime" = .dateTime := rfl
  simp only [literal, declares, range, declared, read]
  rfl

end Typing

theorem Binding.value?_unixTime {row : Row} {column text : String} {seconds : Int64}
    (cell : row.columnText? column = some text)
    (number : Decimal.readInt64 (Text.trimmed text) = .ok seconds) :
    (unixTime column).value? row =
      (Timestamp.ofSeconds? seconds.toInt 0).map fun t => .text t.spacedText := by
  simp only [value?, cell, Option.map_some, number]

/-- The text of every timestamp is read as the timestamp that it tells, at the same point in time.
This is the timestamp itself exactly if its time of day is proper, and so are all timestamps that
are read from texts and those that are shifted from there. A timestamp and its text always have the
same literal for a property of timestamps. The text that a binding makes of a number of seconds is
read as the timestamp of just these seconds; there is one for every number of seconds in the range
of the calendar and for no other. -/
theorem timestamps_survive_text_iff :
    (∀ t : Timestamp, readInstant? (Datum.timestamp t).plainText = some (.floating t.told) ∧
      t.told.nanos = t.nanos) ∧
    (∀ t : Timestamp, readInstant? (Datum.timestamp t).plainText = some (.floating t) ↔
      t.clock.IsProper) ∧
    (∀ text instant, readInstant? text = some instant → instant.universal.clock.IsProper) ∧
    (∀ (t t' : Timestamp) (millis : Int), t.clock.IsProper → t.shift? millis = some t' →
      t'.clock.IsProper) ∧
    (∀ (schema : Schema) (vocabulary : Vocabulary) (property : String) (t : Timestamp),
      schema.declared? (vocabulary.localName property) = some "DateTime" →
      Typing.literal schema vocabulary property (.text (Datum.timestamp t).plainText) =
        .ok (Typing.dateTime t.text) ∧
      Typing.literal schema vocabulary property (.timestamp t) = .ok (Typing.dateTime t.text)) ∧
    ∀ (row : Row) (column text : String) (seconds : Int64), row.columnText? column = some text →
      Decimal.readInt64 (Text.trimmed text) = .ok seconds →
      (Timestamp.firstSecond ≤ seconds.toInt ∧ seconds.toInt ≤ Timestamp.lastSecond →
        ∃ written t, (Binding.unixTime column).value? row = some (.text written) ∧
          readInstant? written = some (.floating t) ∧ t.seconds = seconds.toInt ∧
          t.clock.nano = 0) ∧
      (¬(Timestamp.firstSecond ≤ seconds.toInt ∧ seconds.toInt ≤ Timestamp.lastSecond) →
        (Binding.unixTime column).value? row = none) := by
  refine ⟨fun t => ⟨t.readInstant?_text, t.nanos_told⟩, fun t => ?_,
    fun _ _ => isProper_of_readInstant?,
    fun _ _ _ proper shifted => Timestamp.isProper_of_shift? proper shifted, ?_, ?_⟩
  · have read : readInstant? (Datum.timestamp t).plainText = some (.floating t.told) :=
      t.readInstant?_text
    rw [read, Option.some.injEq, Instant.floating.injEq]
    exact Timestamp.told_eq_self_iff
  · intro schema vocabulary property t declares
    have text : Typing.literal schema vocabulary property (.text (Datum.timestamp t).plainText) =
        .ok (Typing.dateTime t.told.text) :=
      Typing.literal_text_of_floating declares t.readInstant?_text
    exact ⟨t.text_told ▸ text, Typing.literal_timestamp declares t⟩
  · intro row column text seconds cell number
    rw [Binding.value?_unixTime cell number]
    constructor
    · intro inside
      obtain ⟨t, found, same, whole⟩ := Timestamp.exists_ofSeconds? inside
      exact ⟨t.spacedText, t, by rw [found, Option.map_some], t.readInstant?_spacedText whole, same,
        whole⟩
    · intro outside
      rw [Timestamp.ofSeconds?_eq_none outside, Option.map_none]

/-- A leap second long before the year zero. -/
def earlyLeapSecond : Timestamp :=
  ⟨⟨-123456, 2, 29, by decide, by decide, by decide⟩,
    ⟨23, 59, 59, 1000500000, by decide, by decide, by decide, by decide⟩⟩

theorem timestamps_survive_text_iff_extremes :
    (earlyLeapSecond.text = "-123456-02-29T23:59:60.000500" ∧
      readInstant? "-123456-02-29T23:59:60.000500" = some (.floating earlyLeapSecond)) ∧
    earlyLeapSecond.clock.IsProper ∧
    (∃ t, earlyLeapSecond.shift? 999 = some t ∧ t.clock.nano = 1999500000 ∧ t.clock.IsProper) ∧
    Typing.literal ⟨[("begin", "DateTime")]⟩ ⟨"ex:"⟩ "begin" (.text earlyLeapSecond.text) =
      Typing.literal ⟨[("begin", "DateTime")]⟩ ⟨"ex:"⟩ "begin" (.timestamp earlyLeapSecond) ∧
    ∃ written t, (Binding.unixTime "end").value? ⟨⟨["end"]⟩, [.text " 8210266876799 "], []⟩ =
        some (.text written) ∧
      readInstant? written = some (.floating t) ∧ t.seconds = 8210266876799 ∧ t.clock.nano = 0 := by
  obtain ⟨_, survives_iff, read_proper, shift_proper, literals, numbers⟩ :=
    timestamps_survive_text_iff
  have text : earlyLeapSecond.text = "-123456-02-29T23:59:60.000500" := by decide
  have read : readInstant? "-123456-02-29T23:59:60.000500" = some (.floating earlyLeapSecond) :=
    text ▸ (survives_iff earlyLeapSecond).mpr (by decide)
  have proper : earlyLeapSecond.clock.IsProper := read_proper _ _ read
  have shifted : earlyLeapSecond.shift? 999 = some ⟨earlyLeapSecond.date,
      ⟨23, 59, 59, 1999500000, by decide, by decide, by decide, by decide⟩⟩ := by decide
  obtain ⟨ofText, ofTimestamp⟩ :=
    literals ⟨[("begin", "DateTime")]⟩ ⟨"ex:"⟩ "begin" earlyLeapSecond rfl
  obtain ⟨inside, _⟩ := numbers ⟨⟨["end"]⟩, [.text " 8210266876799 "], []⟩ "end" " 8210266876799 "
    8210266876799 rfl (by decide)
  exact ⟨⟨text, read⟩, proper, ⟨_, shifted, rfl, shift_proper _ _ _ proper shifted⟩,
    ofText.trans ofTimestamp.symm, inside (by decide)⟩

/-- A leap second in the middle of a minute. -/
def innerLeapSecond : Timestamp :=
  ⟨⟨2021, 3, 4, by decide, by decide, by decide⟩,
    ⟨23, 56, 4, 1333333333, by decide, by decide, by decide, by decide⟩⟩

/-- Its text is read as the second that comes next. A shift by less than a second leads from there
to another second than from the leap second itself. -/
theorem not_survives_innerLeapSecond :
    (Datum.timestamp innerLeapSecond).plainText = "2021-03-04T23:56:05.333333333" ∧
    readInstant? "2021-03-04T23:56:05.333333333" ≠ some (.floating innerLeapSecond) ∧
    (∃ t, readInstant? "2021-03-04T23:56:05.333333333" = some (.floating t) ∧
      (t.shift? 700).map (·.text) = some "2021-03-04T23:56:06.033333333") ∧
    (innerLeapSecond.shift? 700).map (·.text) = some "2021-03-04T23:56:05.033333333" := by
  have text : innerLeapSecond.text = "2021-03-04T23:56:05.333333333" := by decide
  have read := text ▸ innerLeapSecond.readInstant?_text
  have changed : innerLeapSecond.told ≠ innerLeapSecond := by decide
  refine ⟨text, ?_, ⟨innerLeapSecond.told, read, by decide⟩, by decide⟩
  rw [read, Ne, Option.some.injEq, Instant.floating.injEq]
  exact changed

end RowTriples
