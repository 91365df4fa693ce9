import Mathlib.Tactic.Common
import Mathlib.Order.Lattice

/-!
# The calendar

Days since 1970-01-01 and the Gregorian date of each, before and after that day alike.
A date names one day, and a month is no longer than 31 days.
-/

namespace ApiBank.Numeric.Calendar

set_option autoImplicit false

def daysBeforeYear (year : Int) : Int :=
  365 * (year - 1) + (year - 1) / 4 - (year - 1) / 100 + (year - 1) / 400

/-- 1970-01-01, from the same day on. -/
def epoch : Int := 719162

def isLeap (year : Int) : Bool := year % 4 = 0 ∧ (year % 100 ≠ 0 ∨ year % 400 = 0)

/-- The year of a day, from the year 1 on: whole cycles of 400, 100, 4 and 1 years. The last
century of a cycle and the last year of four are a day longer than the others. -/
def yearAt (day : Int) : Int :=
  let inCycle := day % 146097
  let century := min (inCycle / 36524) 3
  let inCentury := inCycle - 36524 * century
  let inFour := inCentury % 1461
  400 * (day / 146097) + 100 * century + 4 * (inCentury / 1461) + min (inFour / 365) 3 + 1

def daysBeforeMonth (leap : Bool) : List Nat :=
  let extra := leap.toNat
  [0, 31, 59 + extra, 90 + extra, 120 + extra, 151 + extra, 181 + extra, 212 + extra,
    243 + extra, 273 + extra, 304 + extra, 334 + extra]

def monthAt (leap : Bool) (dayOfYear : Nat) : Nat :=
  (daysBeforeMonth leap).countP (· ≤ dayOfYear)

structure Date where
  year : Int
  month : Nat
  day : Nat
  deriving DecidableEq, Repr

def yearOf (days : Int) : Int := yearAt (days + epoch)

def dayOfYear (days : Int) : Nat := (days + epoch - daysBeforeYear (yearOf days)).toNat

def monthOf (days : Int) : Nat := monthAt (isLeap (yearOf days)) (dayOfYear days)

def monthStart (leap : Bool) (month : Nat) : Nat := (daysBeforeMonth leap).getD (month - 1) 0

def civil (days : Int) : Date where
  year := yearOf days
  month := monthOf days
  day := dayOfYear days - monthStart (isLeap (yearOf days)) (monthOf days) + 1

def Date.days (date : Date) : Int :=
  daysBeforeYear date.year + monthStart (isLeap date.year) date.month + date.day - 1 - epoch

theorem daysBeforeYear_succ (year : Int) :
    daysBeforeYear (year + 1) = daysBeforeYear year + 365 + (isLeap year).toNat := by
  unfold daysBeforeYear isLeap
  by_cases leap : year % 4 = 0 ∧ (year % 100 ≠ 0 ∨ year % 400 = 0)
  · simp only [leap]
    simp
    omega
  · simp only [leap]
    simp
    omega

theorem daysBeforeYear_cycles (cycles centuries fours years : Int)
    (century : 0 ≤ centuries ∧ centuries ≤ 3) (four : 0 ≤ fours ∧ fours ≤ 24)
    (year : 0 ≤ years ∧ years ≤ 3) :
    daysBeforeYear (400 * cycles + 100 * centuries + 4 * fours + years + 1) =
      146097 * cycles + 36524 * centuries + 1461 * fours + 365 * years := by
  unfold daysBeforeYear
  omega

theorem yearAt_spec (day : Int) :
    daysBeforeYear (yearAt day) ≤ day ∧ day < daysBeforeYear (yearAt day + 1) := by
  unfold yearAt
  simp only []
  generalize cycleEq : day / 146097 = cycles
  generalize restEq : day % 146097 = inCycle
  generalize centuryEq : min (inCycle / 36524) 3 = centuries
  generalize fourEq : (inCycle - 36524 * centuries) / 1461 = fours
  generalize inFourEq : (inCycle - 36524 * centuries) % 1461 = inFour
  generalize yearEq : min (inFour / 365) 3 = years
  have century : 0 ≤ centuries ∧ centuries ≤ 3 := by omega
  have four : 0 ≤ fours ∧ fours ≤ 24 := by omega
  have year : 0 ≤ years ∧ years ≤ 3 := by omega
  have start := daysBeforeYear_cycles cycles centuries fours years century four year
  have split : day = 146097 * cycles + 36524 * centuries + 1461 * fours + inFour := by omega
  constructor
  · omega
  · rw [daysBeforeYear_succ, start]
    by_cases last : inFour = 1460
    · -- the leap day: the year is the last of four, and of a century only if that is the fourth
      have fourth : years = 3 := by omega
      have leap : isLeap (400 * cycles + 100 * centuries + 4 * fours + years + 1) = true := by
        unfold isLeap
        rw [decide_eq_true_iff]
        omega
      rw [leap, Bool.toNat_true]
      omega
    · omega

theorem day_of_year (days : Int) :
    days = daysBeforeYear (yearOf days) + dayOfYear days - epoch ∧
      dayOfYear days < 365 + (isLeap (yearOf days)).toNat := by
  have inYear := yearAt_spec (days + epoch)
  rw [daysBeforeYear_succ] at inYear
  unfold dayOfYear yearOf
  omega

theorem monthAt_spec (leap : Bool) {dayOfYear : Nat} (inYear : dayOfYear < 365 + leap.toNat) :
    let month := monthAt leap dayOfYear
    1 ≤ month ∧ month ≤ 12 ∧ monthStart leap month ≤ dayOfYear ∧
      dayOfYear < monthStart leap month + 31 := by
  have table : ∀ leap : Bool, ∀ day ∈ List.range (365 + leap.toNat),
      1 ≤ monthAt leap day ∧ monthAt leap day ≤ 12 ∧ monthStart leap (monthAt leap day) ≤ day ∧
        day < monthStart leap (monthAt leap day) + 31 := by
    decide +kernel
  exact table leap dayOfYear (List.mem_range.mpr inYear)

theorem month_of_day (days : Int) :
    1 ≤ monthOf days ∧ monthOf days ≤ 12 ∧
      monthStart (isLeap (yearOf days)) (monthOf days) ≤ dayOfYear days ∧
        dayOfYear days < monthStart (isLeap (yearOf days)) (monthOf days) + 31 :=
  monthAt_spec (isLeap (yearOf days)) (day_of_year days).2

/-- A date names the day it is the date of. -/
theorem days_civil (days : Int) : (civil days).days = days := by
  have year := day_of_year days
  have month := month_of_day days
  unfold civil Date.days
  simp only []
  omega

theorem civil_injective : Function.Injective civil :=
  Function.LeftInverse.injective days_civil

theorem eq_of_dayOfYear {first other : Int} (year : yearOf first = yearOf other)
    (day : dayOfYear first = dayOfYear other) : first = other := by
  have firstDay := day_of_year first
  have otherDay := day_of_year other
  rw [year, day] at firstDay
  omega

/-- The days of one month are less than 31 apart. -/
theorem close_of_month {first other : Int} (year : yearOf first = yearOf other)
    (month : monthOf first = monthOf other) : other < first + 31 := by
  have firstDay := day_of_year first
  have otherDay := day_of_year other
  have firstMonth := month_of_day first
  have otherMonth := month_of_day other
  rw [year] at firstDay
  rw [year, month] at firstMonth
  omega

example : civil 20635 = ⟨2026, 7, 1⟩ := by decide +kernel

end ApiBank.Numeric.Calendar
