import RowTriples.Time.Pattern
import RowTriples.Time.Text
/-!
# Leap seconds in texts

A time of day may hold a leap second behind any second. Its text shows the second that is sixty or
the next one, and the two cases differ: second sixty is read as a leap second again, any other one
as an ordinary second. So a text tells the same point in time, and the time of day itself exactly if
the leap second is a proper one. All timestamps that are read from texts, and all that are shifted
from there, are of this kind.
-/

namespace RowTriples.Time

namespace Clock

variable {c : Clock}

/-- The time of day that a text tells: a leap second behind another second than the last one of its
minute looks like the second that comes next. -/
def told (c : Clock) : Clock :=
  if h : nanosPerSecond ≤ c.nano ∧ c.second ≠ 59 then
    { c with
      second := c.second + 1
      nano := c.nano - nanosPerSecond
      second_lt := by
        have := c.second_lt
        omega
      nano_lt := Nat.lt_of_le_of_lt (Nat.sub_le _ _) c.nano_lt }
  else c

theorem isProper_iff : c.IsProper ↔ ¬(nanosPerSecond ≤ c.nano ∧ c.second ≠ 59) := by
  rw [IsProper, not_and, ne_eq, Decidable.not_not]

theorem told_of_isProper (proper : c.IsProper) : c.told = c :=
  dif_neg (isProper_iff.mp proper)

theorem isProper_told (c : Clock) : c.told.IsProper := by
  rw [told]
  split
  · intro late
    have below := c.nano_lt
    simp only at late
    omega
  next ordinary => exact isProper_iff.mpr ordinary

theorem told_eq_self_iff : c.told = c ↔ c.IsProper :=
  ⟨fun same => same ▸ c.isProper_told, told_of_isProper⟩

theorem isProper_of_of? {hour minute second nano : Nat}
    (found : of? hour minute second nano = some c) : c.IsProper := by
  obtain ⟨⟨_, _, _, _, proper⟩, same⟩ := Option.dite_none_right_eq_some.mp found
  cases same
  exact proper

end Clock

namespace Timestamp

variable {t t' : Timestamp}

def told (t : Timestamp) : Timestamp :=
  ⟨t.date, t.clock.told⟩

def nanos (t : Timestamp) : Int :=
  nanosPerSecond * t.seconds + t.clock.nano

theorem told_eq_self_iff : t.told = t ↔ t.clock.IsProper := by
  obtain ⟨date, clock⟩ := t
  rw [told, mk.injEq, ← Clock.told_eq_self_iff, eq_self_iff_true, true_and]

theorem nanos_told (t : Timestamp) : t.told.nanos = t.nanos := by
  rw [nanos, nanos, told, Clock.told]
  split
  next late =>
    simp only [seconds, Clock.seconds, nanosPerSecond] at late ⊢
    omega
  next => rfl

theorem text_told (t : Timestamp) : t.told.text = t.text := by
  rw [text, text, chars, chars, told, Clock.told]
  split
  next late =>
    have carried : t.clock.second + 1 + (t.clock.nano - nanosPerSecond) / nanosPerSecond =
        t.clock.second + t.clock.nano / nanosPerSecond := by
      rw [Nat.div_eq_sub_div (by decide) late.1]
      omega
    have fraction : fractionText (t.clock.nano - nanosPerSecond) = fractionText t.clock.nano := by
      rw [fractionText, fractionText, ← Nat.mod_eq_sub_mod late.1]
    simp only [Clock.chars, carried, fraction]
  next => rfl

theorem isProper_of_ofSeconds? {seconds : Int} {nano : Nat}
    (found : ofSeconds? seconds nano = some t) : t.clock.IsProper := by
  obtain ⟨date, _, found⟩ := Option.bind_eq_some_iff.mp found
  obtain ⟨clock, time, same⟩ := Option.bind_eq_some_iff.mp found
  cases same
  exact Clock.isProper_of_of? time

/-- A shift stays within a leap second or comes to an ordinary one. -/
theorem isProper_of_shift? (proper : t.clock.IsProper) {millis : Int}
    (shifted : t.shift? millis = some t') : t'.clock.IsProper := by
  simp only [shift?] at shifted
  split at shifted
  · exact isProper_of_ofSeconds? shifted
  next late =>
    split at shifted
    · exact isProper_of_ofSeconds? shifted
    · split at shifted
      · exact isProper_of_ofSeconds? shifted
      · cases shifted
        intro _
        exact proper (by omega)

end Timestamp

theorem Fields.isProper_of_timestamp? {fields : Fields} {t : Timestamp}
    (found : fields.timestamp? = some t) : t.clock.IsProper := by
  obtain ⟨date, _, found⟩ := Option.bind_eq_some_iff.mp found
  obtain ⟨clock, time, same⟩ := Option.bind_eq_some_iff.mp found
  cases same
  exact Clock.isProper_of_of? time

/-- The instant that a text denotes is proper, as every time of day that is built from its parts. -/
theorem isProper_of_readInstant? {text : String} {instant : Instant}
    (read : readInstant? text = some instant) : instant.universal.clock.IsProper := by
  have floating {patterns : List Pattern} {cs : List Char}
      (found : (patterns.findSome? fun pattern => (pattern.read? cs).bind fun fields =>
        fields.timestamp?.map Instant.floating) = some instant) :
      instant.universal.clock.IsProper := by
    obtain ⟨_, _, found⟩ := List.exists_of_findSome?_eq_some found
    obtain ⟨fields, _, found⟩ := Option.bind_eq_some_iff.mp found
    obtain ⟨t, told, rfl⟩ := Option.map_eq_some_iff.mp found
    exact Fields.isProper_of_timestamp? told
  rcases Option.or_eq_some_iff.mp read with found | ⟨_, read⟩
  · obtain ⟨_, _, found⟩ := List.exists_of_findSome?_eq_some found
    obtain ⟨fields, _, found⟩ := Option.bind_eq_some_iff.mp found
    obtain ⟨wall, _, found⟩ := Option.bind_eq_some_iff.mp found
    split at found
    · obtain ⟨universal, told, same⟩ := Option.bind_eq_some_iff.mp found
      cases same
      exact Timestamp.isProper_of_ofSeconds? told
    · cases found
  · rcases Option.or_eq_some_iff.mp read with found | ⟨_, found⟩
    · exact floating found
    · exact floating found

end RowTriples.Time
