/-!
# Calendar dates

Dates of the Gregorian calendar, extended to all years, and their number in days since the
start of 1970. Years are counted from March, so that the leap day is the last day of a year, in
eras of 400 years.
-/

namespace TrafficChart

structure Date where
  year : Int
  month : Nat
  day : Nat
  deriving DecidableEq

def isLeapYear (year : Int) : Bool :=
  decide (year % 4 = 0 ∧ (year % 100 ≠ 0 ∨ year % 400 = 0))

def daysInMonth (year : Int) (month : Nat) : Nat :=
  if month = 2 then (if isLeapYear year then 29 else 28)
  else if month = 4 ∨ month = 6 ∨ month = 9 ∨ month = 11 then 30
  else 31

namespace Date

def Valid (d : Date) : Prop :=
  1 ≤ d.month ∧ d.month ≤ 12 ∧ 1 ≤ d.day ∧ d.day ≤ daysInMonth d.year d.month

instance (d : Date) : Decidable d.Valid := inferInstanceAs (Decidable (_ ∧ _))

/-- The days of the first `n` years of an era. -/
def daysOfYears (n : Int) : Int := 365 * n + n / 4 - n / 100

/-- The days of a March-based year before its month `m`, where March is 0. -/
def daysOfMonths (m : Int) : Int := (153 * m + 2) / 5

/-- The days from the start of 1970 to the date. -/
def dayNumber (d : Date) : Int :=
  let year := if d.month ≤ 2 then d.year - 1 else d.year
  let month : Int := if d.month ≤ 2 then (d.month : Int) + 9 else (d.month : Int) - 3
  let era := year / 400
  let dayOfEra := daysOfYears (year - 400 * era) + daysOfMonths month + (d.day : Int) - 1
  146097 * era + dayOfEra - 719468

/-- The year of an era that a day of the era lies in. -/
def yearOfEra (day : Int) : Int := (day - day / 1460 + day / 36524 - day / 146096) / 365

/-- The date of a day of a March-based year of an era, both counted from 0. -/
def ofDayOfYear (era year day : Int) : Date :=
  let month := (5 * day + 2) / 153
  let dayOfMonth := day - daysOfMonths month + 1
  let year := year + 400 * era
  if month < 10 then ⟨year, (month + 3).toNat, dayOfMonth.toNat⟩
  else ⟨year + 1, (month - 9).toNat, dayOfMonth.toNat⟩

/-- The date with the given day number. -/
def ofDayNumber (n : Int) : Date :=
  let n := n + 719468
  let era := n / 146097
  let day := n - 146097 * era
  let year := yearOfEra day
  ofDayOfYear era year (day - daysOfYears year)

theorem yearOfEra_bounds {day : Int} (h : 0 ≤ day) (h' : day < 146097) :
    0 ≤ yearOfEra day ∧ yearOfEra day < 400 := by
  unfold yearOfEra
  omega

/-- The day lies in that year. -/
theorem daysOfYears_yearOfEra {day : Int} (h : 0 ≤ day) (h' : day < 146097) :
    daysOfYears (yearOfEra day) ≤ day ∧ day ≤ daysOfYears (yearOfEra day) + 365 := by
  obtain ⟨hlow, hhigh⟩ := yearOfEra_bounds h h'
  have hyear : yearOfEra day = (day - day / 1460 + day / 36524 - day / 146096) / 365 := rfl
  unfold daysOfYears
  generalize yearOfEra day = year at *
  -- The centuries of day and year settle the leap years that are left out.
  have hday : day / 36524 = 0 ∨ day / 36524 = 1 ∨ day / 36524 = 2 ∨ day / 36524 = 3 ∨
      day / 36524 = 4 := by omega
  have hcentury : year / 100 = 0 ∨ year / 100 = 1 ∨ year / 100 = 2 ∨ year / 100 = 3 := by omega
  rcases hday with hday | hday | hday | hday | hday <;> rw [hday] at hyear <;>
    rcases hcentury with hcentury | hcentury | hcentury | hcentury <;> rw [hcentury] <;> omega

theorem dayNumber_ofDayOfYear (era : Int) {year day : Int} (hyear : 0 ≤ year ∧ year < 400)
    (hday : 0 ≤ day ∧ day ≤ 365) :
    (ofDayOfYear era year day).dayNumber =
      146097 * era + (daysOfYears year + day) - 719468 := by
  have hera : (year + 400 * era) / 400 = era := by omega
  have hyears : year + 400 * era - 400 * era = year := by omega
  unfold ofDayOfYear
  dsimp only
  split
  · have hlate : ¬ ((5 * day + 2) / 153 + 3).toNat ≤ 2 := by omega
    simp only [dayNumber, hlate, if_false, hera, hyears, daysOfMonths]
    omega
  · have hearly : ((5 * day + 2) / 153 - 9).toNat ≤ 2 := by omega
    simp only [dayNumber, hearly, if_true, Int.add_sub_cancel, hera, hyears, daysOfMonths]
    omega

/-- Every day has a date, which leads back to it. -/
theorem dayNumber_ofDayNumber (n : Int) : (ofDayNumber n).dayNumber = n := by
  obtain ⟨era, hera⟩ : ∃ era, era = (n + 719468) / 146097 := ⟨_, rfl⟩
  have hday : 0 ≤ n + 719468 - 146097 * era ∧ n + 719468 - 146097 * era < 146097 := by omega
  have hoffset := daysOfYears_yearOfEra hday.1 hday.2
  rw [ofDayNumber, ← hera, dayNumber_ofDayOfYear _ (yearOfEra_bounds hday.1 hday.2) (by omega)]
  omega

example : ofDayNumber 0 = ⟨1970, 1, 1⟩ := by decide

end Date

end TrafficChart
