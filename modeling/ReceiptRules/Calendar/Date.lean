/-!
# Calendar dates

Dates of the proleptic Gregorian calendar, with their weekday, day of the year and ISO week. Years run
from `Date.minYear` to `Date.maxYear`; the year before year 1 is year 0.
-/

namespace ReceiptRules

/-- Leap years: every fourth year, but of the full centuries only every fourth. -/
def isLeapYear (year : Int) : Bool :=
  year % 4 = 0 && (year % 100 ≠ 0 || year % 400 = 0)

/-- The number of days of a month; zero for a number that is no month. -/
def daysInMonth (year : Int) (month : Nat) : Nat :=
  match month with
  | 2 => if isLeapYear year then 29 else 28
  | 4 | 6 | 9 | 11 => 30
  | 1 | 3 | 5 | 7 | 8 | 10 | 12 => 31
  | _ => 0

def Date.minYear : Int := -262143

def Date.maxYear : Int := 262142

/-- What makes three numbers a date. -/
def IsDate (year : Int) (month day : Nat) : Prop :=
  Date.minYear ≤ year ∧ year ≤ Date.maxYear ∧ 1 ≤ day ∧ day ≤ daysInMonth year month

instance (year : Int) (month day : Nat) : Decidable (IsDate year month day) :=
  inferInstanceAs (Decidable (_ ∧ _))

/-- A day of the calendar. -/
structure Date where
  year : Int
  month : Nat
  day : Nat
  isDate : IsDate year month day
  deriving DecidableEq

namespace Date

/-- The date with the given numbers, if there is one. -/
def ofNumbers? (year : Int) (month day : Nat) : Option Date :=
  if h : IsDate year month day then some ⟨year, month, day, h⟩ else none

/-- The number of days in the months of a year before a month. -/
def daysBeforeMonth (year : Int) : Nat → Nat
  | 0 => 0
  | month + 1 => daysBeforeMonth year month + daysInMonth year month

/-- The number of the day in its year, from 1 on. -/
def dayOfYear (d : Date) : Nat := daysBeforeMonth d.year d.month + d.day

/-- The number of days from the last day of year 0 to the last day before a year. -/
def daysBeforeYear (year : Int) : Int :=
  let past := year - 1
  365 * past + past / 4 - past / 100 + past / 400

/-- The number of the day, where the first day of year 1, a Monday, is day 1. -/
def dayNumber (d : Date) : Int := daysBeforeYear d.year + d.dayOfYear

/-- The day of the week of a numbered day, from Monday, 1, to Sunday, 7. -/
def weekdayOfDayNumber (n : Int) : Nat := ((n - 1) % 7).toNat + 1

/-- The day of the week, from Monday, 1, to Sunday, 7. -/
def weekday (d : Date) : Nat := weekdayOfDayNumber d.dayNumber

/-- The number of ISO weeks of a year: 53 if its first day is a Thursday, or a Wednesday in a leap
year, and else 52. -/
def weeksInYear (year : Int) : Nat :=
  let first := weekdayOfDayNumber (daysBeforeYear year + 1)
  if first = 4 || (first = 3 && isLeapYear year) then 53 else 52

/-- The ISO week. Weeks start on Monday and belong to the year that holds their Thursday, so the first
days of a year may be in the last week of the year before, and its last days in week 1. -/
def isoWeek (d : Date) : Nat :=
  let week := (d.dayOfYear + 10 - d.weekday) / 7
  if week = 0 then weeksInYear (d.year - 1)
  else if weeksInYear d.year < week then 1
  else week

end Date

end ReceiptRules
