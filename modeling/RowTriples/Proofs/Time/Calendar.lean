import RowTriples.Time.Timestamp
/-!
# Days and seconds of the calendar

The calendar has a date for every number of a day in its range, and a timestamp for every number of
seconds in its range. Each lies where its number says.
-/

namespace RowTriples.Time

/-! ### Days -/

theorem daysBeforeMonth_succ (year : Int) {month : Nat} (named : 1 ≤ month) :
    daysBeforeMonth year (month + 1) = daysBeforeMonth year month + monthLength year month := by
  obtain ⟨month, rfl⟩ := Nat.exists_eq_add_of_le' named
  rfl

theorem daysBeforeMonth_end (year : Int) :
    daysBeforeMonth year 13 = if isLeapYear year then 366 else 365 := by
  cases leap : isLeapYear year <;> simp [daysBeforeMonth, monthLength, leap]

/-- A year is as long as its months are together. -/
theorem daysBeforeYear_succ (year : Int) :
    daysBeforeYear (year + 1) = daysBeforeYear year + daysBeforeMonth year 13 := by
  rw [daysBeforeMonth_end]
  simp only [daysBeforeYear, isLeapYear, Bool.and_eq_true, Bool.or_eq_true, decide_eq_true_eq]
  split <;> omega

theorem lt_of_daysBeforeYear_lt {year year' : Int}
    (h : daysBeforeYear year < daysBeforeYear year') : year < year' := by
  unfold daysBeforeYear at h
  omega

theorem daysBeforeYear_le {year year' : Int} (h : year ≤ year') :
    daysBeforeYear year ≤ daysBeforeYear year' :=
  Int.not_lt.mp fun before => Int.not_lt.mpr h (lt_of_daysBeforeYear_lt before)

/-- By induction on the number of months that are tried: no day is lost when a month is passed. -/
theorem exists_monthAndDay (year : Int) (months : Nat) {month rest : Nat} (named : 1 ≤ month)
    (within : daysBeforeMonth year month + rest < daysBeforeMonth year (month + months + 1)) :
    ∃ m d, monthAndDay year month rest months = (m, d) ∧ (month ≤ m ∧ m ≤ month + months) ∧
      (1 ≤ d ∧ d ≤ monthLength year m) ∧
      daysBeforeMonth year m + d = daysBeforeMonth year month + rest + 1 := by
  have next := daysBeforeMonth_succ year named
  induction months generalizing month rest with
  | zero =>
      rw [Nat.add_zero, next] at within
      exact ⟨month, rest + 1, rfl, by omega, by omega, rfl⟩
  | succ months ih =>
      rw [monthAndDay]
      split
      next => exact ⟨month, rest + 1, rfl, by omega, by omega, rfl⟩
      next =>
        have passed : daysBeforeMonth year (month + 1) + (rest - monthLength year month) =
            daysBeforeMonth year month + rest := by omega
        have within : daysBeforeMonth year (month + 1) + (rest - monthLength year month) <
            daysBeforeMonth year (month + 1 + months + 1) := by
          rw [passed, Nat.add_right_comm month 1 months]
          exact within
        obtain ⟨m, d, found, ⟨lower, upper⟩, inside, same⟩ :=
          ih (Nat.le_add_left 1 month) within (daysBeforeMonth_succ year (by omega))
        exact ⟨m, d, found, by omega, inside, same.trans (congrArg (· + 1) passed)⟩

def firstDay : Int := daysBeforeYear firstYear - epochDay

def endDay : Int := daysBeforeYear (lastYear + 1) - epochDay

theorem yearOfDay_range_iff {n : Int} :
    firstYear ≤ yearOfDay (n + epochDay) ∧ yearOfDay (n + epochDay) ≤ lastYear ↔
      firstDay ≤ n ∧ n < endDay := by
  obtain ⟨after, before⟩ := yearOfDay_bounds (n + epochDay)
  unfold firstDay endDay
  constructor
  · rintro ⟨lower, upper⟩
    have first := daysBeforeYear_le lower
    have last := daysBeforeYear_le (Int.add_le_add_right upper 1)
    omega
  · rintro ⟨lower, upper⟩
    have fromFirst : firstYear < yearOfDay (n + epochDay) + 1 :=
      lt_of_daysBeforeYear_lt (Int.lt_of_le_of_lt (by omega) before)
    have toLast : yearOfDay (n + epochDay) < lastYear + 1 :=
      lt_of_daysBeforeYear_lt (Int.lt_of_le_of_lt after (by omega))
    exact ⟨Int.lt_add_one_iff.mp fromFirst, Int.lt_add_one_iff.mp toLast⟩

/-- Every day of the range has its date. -/
theorem exists_ofDayNumber? {n : Int} (lower : firstDay ≤ n) (upper : n < endDay) :
    ∃ d, Date.ofDayNumber? n = some d ∧ d.dayNumber = n := by
  have years := yearOfDay_range_iff.mpr ⟨lower, upper⟩
  obtain ⟨after, before⟩ := yearOfDay_bounds (n + epochDay)
  rw [daysBeforeYear_succ] at before
  unfold Date.ofDayNumber?
  generalize yearOfDay (n + epochDay) = year at *
  have first : daysBeforeMonth year 1 = 0 := rfl
  have within : daysBeforeMonth year 1 + (n + epochDay - daysBeforeYear year).toNat <
      daysBeforeMonth year 13 := by omega
  obtain ⟨m, d, found, months, days, same⟩ :=
    exists_monthAndDay year 11 Nat.le.refl within
  refine ⟨⟨year, m, d, years, months, days⟩, ?_, ?_⟩
  · simp only [found]
    exact Date.of?_parts ⟨year, m, d, years, months, days⟩
  · simp only [Date.dayNumber]
    omega

theorem range_of_ofDayNumber? {n : Int} {d : Date} (found : Date.ofDayNumber? n = some d) :
    firstDay ≤ n ∧ n < endDay := by
  simp only [Date.ofDayNumber?, Date.of?, Option.dite_none_right_eq_some] at found
  obtain ⟨⟨years, _⟩, _⟩ := found
  exact yearOfDay_range_iff.mp years

/-! ### Seconds -/

/-- Every second of a day has its time. -/
theorem Clock.exists_of? {n : Nat} (inside : n < 86400) :
    ∃ c, of? (n / 3600) (n / 60 % 60) (n % 60) 0 = some c ∧ c.seconds = n ∧ c.nano = 0 := by
  have hour : n / 3600 < 24 := by omega
  have minute : n / 60 % 60 < 60 := Nat.mod_lt _ (by decide)
  have second : n % 60 < 60 := Nat.mod_lt _ (by decide)
  let c : Clock := ⟨n / 3600, n / 60 % 60, n % 60, 0, hour, minute, second, by decide⟩
  have proper : c.IsProper := nofun
  refine ⟨c, of?_parts proper, ?_, rfl⟩
  simp only [seconds, c]
  omega

namespace Timestamp

def firstSecond : Int := -8334601228800

def lastSecond : Int := 8210266876799

theorem range_iff {n : Int} : firstSecond ≤ n ∧ n ≤ lastSecond ↔
    firstDay ≤ n / secondsPerDay ∧ n / secondsPerDay < endDay := by
  have early : firstDay * secondsPerDay = firstSecond := by decide
  have late : endDay * secondsPerDay = lastSecond + 1 := by decide
  rw [Int.le_ediv_iff_mul_le (by decide), Int.ediv_lt_iff_lt_mul (by decide), early, late,
    Int.lt_add_one_iff]

/-- Every second of the range has its timestamp. -/
theorem exists_ofSeconds? {n : Int} (inside : firstSecond ≤ n ∧ n ≤ lastSecond) :
    ∃ t, ofSeconds? n 0 = some t ∧ t.seconds = n ∧ t.clock.nano = 0 := by
  obtain ⟨lower, upper⟩ := range_iff.mp inside
  have split := Int.mul_ediv_add_emod n secondsPerDay
  have nonneg := Int.emod_nonneg n (b := secondsPerDay) (by decide)
  have small := Int.emod_lt_of_pos n (b := secondsPerDay) (by decide)
  obtain ⟨date, day, number⟩ := exists_ofDayNumber? lower upper
  obtain ⟨clock, time, rest, whole⟩ := Clock.exists_of? (n := (n % secondsPerDay).toNat)
    (by unfold secondsPerDay at small ⊢; omega)
  refine ⟨⟨date, clock⟩, ?_, ?_, whole⟩
  · simp only [ofSeconds?, day, time]
    rfl
  · simp only [seconds, number, rest, Int.toNat_of_nonneg nonneg, split]

/-- No other second has one. -/
theorem ofSeconds?_eq_none {n : Int} {nano : Nat} (outside : ¬(firstSecond ≤ n ∧ n ≤ lastSecond)) :
    ofSeconds? n nano = none := by
  cases day : Date.ofDayNumber? (n / secondsPerDay) with
  | none =>
      rw [ofSeconds?, day]
      rfl
  | some date => exact absurd (range_iff.mpr (range_of_ofDayNumber? day)) outside

end Timestamp

end RowTriples.Time
