import RowTriples.Time.Calendar
/-!
# Timestamps

A timestamp is a date with a time of day, down to nanoseconds. A leap second is written as the
second before it with a thousand million nanoseconds or more. Where a time of day is built from its
parts, a leap second has to follow the last second of a minute; arithmetic does not look at that.
-/

namespace RowTriples.Time

def nanosPerSecond : Nat := 1000000000

structure Clock where
  hour : Nat
  minute : Nat
  second : Nat
  nano : Nat
  hour_lt : hour < 24
  minute_lt : minute < 60
  second_lt : second < 60
  nano_lt : nano < 2 * nanosPerSecond
  deriving DecidableEq

namespace Clock

/-- A leap second follows the last second of a minute. -/
def IsProper (c : Clock) : Prop :=
  nanosPerSecond ≤ c.nano → c.second = 59

instance (c : Clock) : Decidable c.IsProper :=
  inferInstanceAs (Decidable (_ → _))

/-- The time of day with the given parts, if it exists and is a proper one. -/
def of? (hour minute second nano : Nat) : Option Clock :=
  if h : hour < 24 ∧ minute < 60 ∧ second < 60 ∧ nano < 2 * nanosPerSecond ∧
      (nanosPerSecond ≤ nano → second = 59) then
    some ⟨hour, minute, second, nano, h.1, h.2.1, h.2.2.1, h.2.2.2.1⟩
  else none

/-- The whole seconds since the beginning of the day. A leap second counts with the second before
it. -/
def seconds (c : Clock) : Nat :=
  3600 * c.hour + 60 * c.minute + c.second

theorem of?_parts {c : Clock} (proper : c.IsProper) :
    of? c.hour c.minute c.second c.nano = some c :=
  dif_pos ⟨c.hour_lt, c.minute_lt, c.second_lt, c.nano_lt, proper⟩

end Clock

structure Timestamp where
  date : Date
  clock : Clock
  deriving DecidableEq

namespace Timestamp

def secondsPerDay : Int := 86400

/-- The whole seconds since the beginning of the year 1970. -/
def seconds (t : Timestamp) : Int :=
  secondsPerDay * t.date.dayNumber + t.clock.seconds

/-- The timestamp that lies the given number of seconds behind the beginning of the year 1970, and
a number of nanoseconds within its second. -/
def ofSeconds? (seconds : Int) (nano : Nat) : Option Timestamp := do
  let date ← Date.ofDayNumber? (seconds / secondsPerDay)
  let rest := (seconds % secondsPerDay).toNat
  let clock ← Clock.of? (rest / 3600) (rest / 60 % 60) (rest % 60) nano
  return ⟨date, clock⟩

/-- The timestamp a number of milliseconds later, if it lies in the calendar's range. A shift out of
a leap second starts from that end of it which lies in the shift's direction. -/
def shift? (t : Timestamp) (millis : Int) : Option Timestamp :=
  let whole := millis.tdiv 1000
  let part := 1000000 * millis.tmod 1000
  let nano := (t.clock.nano : Int)
  let second := (nanosPerSecond : Int)
  let from? (seconds nano : Int) : Option Timestamp :=
    ofSeconds? (seconds + whole + (nano + part) / second) ((nano + part) % second).toNat
  if nano < second then from? t.seconds nano
  else if later : 0 < whole ∨ (0 < part ∧ 2 * second ≤ nano + part) then
    from? t.seconds (nano - second)
  else if whole < 0 then from? (t.seconds + 1) (nano - second)
  else
    have nano_lt : (nano + part).toNat < 2 * nanosPerSecond := by
      have := t.clock.nano_lt
      omega
    some ⟨t.date, { t.clock with nano := (nano + part).toNat, nano_lt }⟩

end Timestamp

end RowTriples.Time
