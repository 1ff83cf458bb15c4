/-!
# Dates of the Gregorian calendar

Days are numbered from the first of January 1970, and the calendar is extended to all years in both
directions. The years that a date may have are bounded; a date carries the proof that it exists.
-/

namespace RowTriples.Time

/-- Whether the year has a twenty-ninth of February. -/
def isLeapYear (year : Int) : Bool :=
  year % 4 = 0 && (year % 100 ≠ 0 || year % 400 = 0)

def monthLength (year : Int) (month : Nat) : Nat :=
  if month = 2 then (if isLeapYear year then 29 else 28)
  else if month = 4 ∨ month = 6 ∨ month = 9 ∨ month = 11 then 30
  else 31

def firstYear : Int := -262143

def lastYear : Int := 262142

structure Date where
  year : Int
  month : Nat
  day : Nat
  year_range : firstYear ≤ year ∧ year ≤ lastYear
  month_range : 1 ≤ month ∧ month ≤ 12
  day_range : 1 ≤ day ∧ day ≤ monthLength year month
  deriving DecidableEq

/-- The number of days from the first of January of the year 1 to that of the given year. -/
def daysBeforeYear (year : Int) : Int :=
  365 * (year - 1) + (year - 1) / 4 - (year - 1) / 100 + (year - 1) / 400

/-- The number of days of the year before the given month. -/
def daysBeforeMonth (year : Int) : (month : Nat) → Nat
  | 0 => 0
  | 1 => 0
  | month + 2 => daysBeforeMonth year (month + 1) + monthLength year (month + 1)

/-- The number of days from the first of January of the year 1 to that of 1970. -/
def epochDay : Int := 719162

/-- The year in which a day lies, counted from the first of January of the year 1. The average
length of a year gives it up to one. -/
def yearOfDay (day : Int) : Int :=
  let guess := 400 * day / 146097 + 1
  if day < daysBeforeYear guess then guess - 1
  else if daysBeforeYear (guess + 1) ≤ day then guess + 1
  else guess

/-- The month, at or after a given one, and the day of the month that lie `rest` days behind the
beginning of that month; at most `months` months are tried. -/
def monthAndDay (year : Int) (month : Nat) (rest : Nat) : (months : Nat) → Nat × Nat
  | 0 => (month, rest + 1)
  | months + 1 =>
    if rest < monthLength year month then (month, rest + 1)
    else monthAndDay year (month + 1) (rest - monthLength year month) months

namespace Date

def of? (year : Int) (month day : Nat) : Option Date :=
  if h : (firstYear ≤ year ∧ year ≤ lastYear) ∧ (1 ≤ month ∧ month ≤ 12) ∧
      (1 ≤ day ∧ day ≤ monthLength year month) then
    some ⟨year, month, day, h.1, h.2.1, h.2.2⟩
  else none

def dayNumber (d : Date) : Int :=
  daysBeforeYear d.year + daysBeforeMonth d.year d.month + d.day - 1 - epochDay

/-- The date of the day with the given number, if its year lies in the range. -/
def ofDayNumber? (n : Int) : Option Date :=
  let year := yearOfDay (n + epochDay)
  let (month, day) := monthAndDay year 1 (n + epochDay - daysBeforeYear year).toNat 11
  of? year month day

@[simp] theorem of?_parts (d : Date) : of? d.year d.month d.day = some d := by
  simp [of?, d.year_range, d.month_range, d.day_range]

end Date

/-- The year found for a day is the one in which it lies. -/
theorem yearOfDay_bounds (day : Int) :
    daysBeforeYear (yearOfDay day) ≤ day ∧ day < daysBeforeYear (yearOfDay day + 1) := by
  unfold yearOfDay daysBeforeYear
  simp only
  split
  · constructor <;> omega
  · split <;> constructor <;> omega

end RowTriples.Time
