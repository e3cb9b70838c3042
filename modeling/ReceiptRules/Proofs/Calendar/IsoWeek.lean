import ReceiptRules.Proofs.Calendar.DayOfYear

/-!
# ISO weeks

A week belongs to the year in which its Thursday lies, and is counted by the Thursdays of that year
(`Date.exists_isoWeek_eq`). A year has at most 366 days, so there are at most 53 weeks in it
(`Date.isoWeek_bounds`), and the leap year 2020, which has a Thursday on its second day, has all of them
(`Date.exists_isoWeek`).
-/

namespace ReceiptRules.Date

variable (d : Date) {year : ℤ} {k : ℕ}

/-! ## Weekdays -/

theorem weekdayOfDayNumber_eq (n : ℤ) : (weekdayOfDayNumber n : ℤ) = (n - 1) % 7 + 1 := by
  unfold weekdayOfDayNumber
  omega

theorem weekday_bounds : 1 ≤ d.weekday ∧ d.weekday ≤ 7 := by
  have h := weekdayOfDayNumber_eq d.dayNumber
  rw [weekday]
  omega

/-- The number of the Thursday in the week of a day, from Monday to Sunday. -/
def thursday : ℤ := d.dayNumber + 4 - d.weekday

theorem weekdayOfDayNumber_thursday : weekdayOfDayNumber d.thursday = 4 := by
  have h := weekdayOfDayNumber_eq d.dayNumber
  have h' := weekdayOfDayNumber_eq d.thursday
  rw [thursday, weekday] at *
  omega

/-! ## Weeks of a year -/

/-- A year has as many weeks as Thursdays: the last of them, at most six days before its end, tells their
number. -/
theorem weeksInYear_eq (hthursday : weekdayOfDayNumber (daysBeforeYear year + k) = 4)
    (hle : k ≤ daysInYear year) (hlast : daysInYear year < k + 7) :
    weeksInYear year = (k - 1) / 7 + 1 := by
  have hfirst := weekdayOfDayNumber_eq (daysBeforeYear year + 1)
  have hk := weekdayOfDayNumber_eq (daysBeforeYear year + k)
  rw [hthursday] at hk
  unfold weeksInYear
  by_cases hleap : isLeapYear year = true
  · simp only [daysInYear, hleap, if_true] at hle hlast
    simp only [hleap, Bool.and_true, Bool.or_eq_true, decide_eq_true_eq]
    split <;> omega
  · simp only [daysInYear, hleap, Bool.false_eq_true, if_false] at hle hlast
    simp only [hleap, Bool.and_false, Bool.or_false, decide_eq_true_eq]
    split <;> omega

theorem le_weeksInYear (hthursday : weekdayOfDayNumber (daysBeforeYear year + k) = 4)
    (hle : k ≤ daysInYear year) : (k - 1) / 7 + 1 ≤ weeksInYear year := by
  have hlast : weekdayOfDayNumber (daysBeforeYear year + (k + 7 * ((daysInYear year - k) / 7) : ℕ)) = 4 := by
    have h := weekdayOfDayNumber_eq (daysBeforeYear year + k)
    have h' := weekdayOfDayNumber_eq (daysBeforeYear year + (k + 7 * ((daysInYear year - k) / 7) : ℕ))
    omega
  rw [weeksInYear_eq hlast (by omega) (by omega)]
  omega

/-! ## Weeks -/

theorem thursday_eq : d.thursday = daysBeforeYear d.year + d.dayOfYear + 4 - d.weekday := rfl

/-- The rule of ISO weeks: if the Thursday of the week is day `k` of a year, the week is the one of that
year in which its Thursday number `(k - 1) / 7 + 1` lies. -/
theorem exists_isoWeek_eq :
    ∃ (year : ℤ) (k : ℕ), 1 ≤ k ∧ k ≤ daysInYear year ∧ d.thursday = daysBeforeYear year + k ∧
      d.isoWeek = (k - 1) / 7 + 1 := by
  have hthursday := d.weekdayOfDayNumber_thursday
  have hnumber := d.thursday_eq
  obtain ⟨hweekday, hweekday'⟩ := d.weekday_bounds
  have hday := d.one_le_dayOfYear
  have hday' := d.dayOfYear_le
  rw [isoWeek]
  by_cases hbefore : d.dayOfYear + 4 ≤ d.weekday
  · -- The Thursday is one of the last days of the year before.
    have hyear := daysBeforeYear_succ (d.year - 1)
    rw [Int.sub_add_cancel] at hyear
    have hlen := (daysInYear_bounds (d.year - 1)).1
    obtain ⟨k, hk⟩ : ∃ k, k + d.weekday = daysInYear (d.year - 1) + d.dayOfYear + 4 :=
      ⟨daysInYear (d.year - 1) + d.dayOfYear + 4 - d.weekday, by omega⟩
    have hkth : d.thursday = daysBeforeYear (d.year - 1) + k := by omega
    rw [hkth] at hthursday
    refine ⟨d.year - 1, k, by omega, by omega, hkth, ?_⟩
    rw [if_pos (by omega), weeksInYear_eq hthursday (by omega) (by omega)]
  · obtain ⟨k, hk⟩ : ∃ k, k + d.weekday = d.dayOfYear + 4 := ⟨d.dayOfYear + 4 - d.weekday, by omega⟩
    have hkth : d.thursday = daysBeforeYear d.year + k := by omega
    have hweek : (d.dayOfYear + 10 - d.weekday) / 7 = (k - 1) / 7 + 1 := by omega
    rw [hweek, if_neg (by omega)]
    by_cases hle : k ≤ daysInYear d.year
    · rw [hkth] at hthursday
      have hweeks := le_weeksInYear hthursday hle
      exact ⟨d.year, k, by omega, hle, hkth, if_neg (by omega)⟩
    · -- The Thursday is one of the first days of the year after, and the last one of this year is a
      -- week earlier.
      have hyear := daysBeforeYear_succ d.year
      have hlen := (daysInYear_bounds d.year).1
      have hlen' := (daysInYear_bounds (d.year + 1)).1
      have hlast : weekdayOfDayNumber (daysBeforeYear d.year + (k - 7 : ℕ)) = 4 := by
        have h := weekdayOfDayNumber_eq d.thursday
        have h' := weekdayOfDayNumber_eq (daysBeforeYear d.year + (k - 7 : ℕ))
        omega
      have hweeks := weeksInYear_eq hlast (by omega) (by omega)
      refine ⟨d.year + 1, k - daysInYear d.year, by omega, by omega, by omega, ?_⟩
      rw [if_pos (by omega)]
      omega

theorem isoWeek_bounds : 1 ≤ d.isoWeek ∧ d.isoWeek ≤ 53 := by
  obtain ⟨year, k, hpos, hle, -, hweek⟩ := d.exists_isoWeek_eq
  have hlen := (daysInYear_bounds year).2
  omega

/-- The Thursdays of a year lie in its weeks, one after the other. -/
theorem isoWeek_of_thursday (h : d.weekday = 4) : d.isoWeek = (d.dayOfYear - 1) / 7 + 1 := by
  have hthursday := d.weekdayOfDayNumber_thursday
  have hnumber : d.thursday = daysBeforeYear d.year + d.dayOfYear := by
    rw [thursday_eq, h]
    omega
  rw [hnumber] at hthursday
  have hday := d.one_le_dayOfYear
  have hweeks := le_weeksInYear hthursday d.dayOfYear_le
  have hweek : (d.dayOfYear + 10 - d.weekday) / 7 = (d.dayOfYear - 1) / 7 + 1 := by omega
  rw [isoWeek, hweek, if_neg (by omega), if_neg (by omega)]

theorem exists_isoWeek {n : ℕ} (hpos : 1 ≤ n) (hle : n ≤ 53) : ∃ d : Date, d.isoWeek = n := by
  have hyear : daysInYear 2020 = 366 := by decide
  obtain ⟨d, hd, hday⟩ : ∃ d : Date, d.year = 2020 ∧ d.dayOfYear = 7 * n - 5 :=
    exists_dayOfYear_eq (by decide) (by decide) (by omega) (by omega)
  have hweekday : d.weekday = 4 := by
    have hbefore : daysBeforeYear 2020 % 7 = 2 := by decide
    have h := weekdayOfDayNumber_eq d.dayNumber
    rw [weekday]
    rw [dayNumber, hd, hday] at *
    omega
  refine ⟨d, ?_⟩
  rw [d.isoWeek_of_thursday hweekday, hday]
  omega

end ReceiptRules.Date
