import Mathlib.Data.Int.Basic
import Mathlib.Order.Monotone.Basic
import ReceiptRules.Calendar.Date

/-!
# Days of the year

The months of a year follow one another without a gap, so its days are numbered from 1 to 365 or 366, and
each of these numbers is that of a day (`Date.dayOfYear_le`, `Date.exists_dayOfYear_eq`). So do the years
(`Date.daysBeforeYear_succ`).
-/

namespace ReceiptRules

/-- The number of days of a year. -/
def daysInYear (year : ℤ) : ℕ := if isLeapYear year then 366 else 365

variable {year : ℤ} {month n : ℕ}

theorem daysInYear_bounds (year : ℤ) : 365 ≤ daysInYear year ∧ daysInYear year ≤ 366 := by
  unfold daysInYear
  split <;> omega

theorem daysInMonth_le : daysInMonth year month ≤ 31 := by
  unfold daysInMonth
  split
  case h_1 => split <;> omega
  all_goals omega

theorem month_le_of_daysInMonth_pos (h : 0 < daysInMonth year month) : 1 ≤ month ∧ month ≤ 12 := by
  unfold daysInMonth at h
  split at h <;> omega

namespace Date

variable (d : Date)

theorem month_bounds : 1 ≤ d.month ∧ d.month ≤ 12 := by
  obtain ⟨-, -, hday, hle⟩ := d.isDate
  exact month_le_of_daysInMonth_pos (Nat.lt_of_lt_of_le hday hle)

theorem day_bounds : 1 ≤ d.day ∧ d.day ≤ 31 := by
  obtain ⟨-, -, hday, hle⟩ := d.isDate
  exact ⟨hday, Nat.le_trans hle daysInMonth_le⟩

/-! ## Months -/

theorem daysBeforeMonth_mono (year : ℤ) : Monotone (daysBeforeMonth year) :=
  monotone_nat_of_le_succ fun _ => Nat.le_add_right _ _

/-- The twelve months make up the year. -/
theorem daysBeforeMonth_thirteen (year : ℤ) : daysBeforeMonth year 13 = daysInYear year := by
  simp only [daysBeforeMonth, daysInMonth, daysInYear]
  split <;> rfl

theorem one_le_dayOfYear : 1 ≤ d.dayOfYear :=
  Nat.le_trans d.day_bounds.1 (Nat.le_add_left _ _)

theorem dayOfYear_le : d.dayOfYear ≤ daysInYear d.year := by
  obtain ⟨-, -, -, hday⟩ := d.isDate
  calc d.dayOfYear = daysBeforeMonth d.year d.month + d.day := rfl
    _ ≤ daysBeforeMonth d.year d.month + daysInMonth d.year d.month := Nat.add_le_add_left hday _
    _ = daysBeforeMonth d.year (d.month + 1) := rfl
    _ ≤ daysBeforeMonth d.year 13 := daysBeforeMonth_mono _ (Nat.succ_le_succ d.month_bounds.2)
    _ = daysInYear d.year := daysBeforeMonth_thirteen _

theorem dayOfYear_bounds : 1 ≤ d.dayOfYear ∧ d.dayOfYear ≤ 366 :=
  ⟨d.one_le_dayOfYear, Nat.le_trans d.dayOfYear_le (daysInYear_bounds d.year).2⟩

/-- The months before a month hold all days up to it. -/
theorem exists_day_of_le (hpos : 1 ≤ n) (hle : n ≤ daysBeforeMonth year month) :
    ∃ month day, 1 ≤ day ∧ day ≤ daysInMonth year month ∧ daysBeforeMonth year month + day = n := by
  induction month with
  | zero =>
    simp only [daysBeforeMonth] at hle
    omega
  | succ month ih =>
    by_cases hbefore : n ≤ daysBeforeMonth year month
    · exact ih hbefore
    · simp only [daysBeforeMonth] at hle
      exact ⟨month, n - daysBeforeMonth year month, by omega, by omega, by omega⟩

/-- Every number up to the length of a year is that of one of its days. -/
theorem exists_dayOfYear_eq (hmin : minYear ≤ year) (hmax : year ≤ maxYear) (hpos : 1 ≤ n)
    (hle : n ≤ daysInYear year) : ∃ d : Date, d.year = year ∧ d.dayOfYear = n := by
  rw [← daysBeforeMonth_thirteen] at hle
  obtain ⟨month, day, hday, hday_le, hn⟩ := exists_day_of_le hpos hle
  exact ⟨⟨year, month, day, hmin, hmax, hday, hday_le⟩, rfl, hn⟩

/-! ## Years -/

theorem daysBeforeYear_succ (year : ℤ) :
    daysBeforeYear (year + 1) = daysBeforeYear year + daysInYear year := by
  by_cases hleap : isLeapYear year = true
  · simp only [daysInYear, hleap, if_true, daysBeforeYear]
    simp only [isLeapYear, Bool.and_eq_true, Bool.or_eq_true, decide_eq_true_eq] at hleap
    omega
  · simp only [daysInYear, hleap, Bool.false_eq_true, if_false, daysBeforeYear]
    simp only [isLeapYear, Bool.and_eq_true, Bool.or_eq_true, decide_eq_true_eq] at hleap
    omega

end Date

end ReceiptRules
