import ReceiptRules.Proofs.Calendar.IsoWeek
import ReceiptRules.Proofs.Condition.Comparison
import ReceiptRules.Proofs.Condition.DateValue
import ReceiptRules.Proofs.Condition.Fields
import ReceiptRules.Proofs.Condition.RoundTrip

/-!
# Ranges of date components

The range of a component other than the year holds exactly the values that it has on the days of the
calendar. So a condition that asks for one of them can hold, one that asks for at least the least of them
always holds of a receipt with a timestamp, and one that asks for more than the greatest never does
(`Condition.holds_date_range`). Years have no range, and any integer of 32 bits is accepted as one, but
the calendar ends: a condition that asks for a year beyond it is accepted and never holds
(`Condition.never_holds_yearBeyondCalendar`).
-/

namespace ReceiptRules

namespace Operator

variable {a b : ℤ}

theorem holdsOfInts_equal_iff : equal.holdsOfInts a b = true ↔ a = b :=
  holdsOfInts_iff.trans beq_iff_eq

theorem holdsOfInts_greater_iff : greater.holdsOfInts a b = true ↔ b < a := holdsOfInts_iff

theorem holdsOfInts_greaterOrEqual_iff : greaterOrEqual.holdsOfInts a b = true ↔ b ≤ a :=
  holdsOfInts_iff

end Operator

/-! ## Values of components -/

/-- The first moment of a day. -/
def Date.midnight (d : Date) : Timestamp := ⟨d, 0, 0, 0, 0, by decide⟩

namespace DateComponent

variable {c : DateComponent} {n : ℤ}

theorem inRange_iff {least greatest : ℤ} (h : c.range? = some (least, greatest)) :
    c.InRange n ↔ least ≤ n ∧ n ≤ greatest := by
  simp [InRange, h]

theorem exists_range (h : c ≠ year) : ∃ least greatest, c.range? = some (least, greatest) := by
  cases c <;> first | exact absurd rfl h | exact ⟨_, _, rfl⟩

/-- A component of a date is in its range. -/
theorem inRange_extract (c : DateComponent) (d : Date) : c.InRange (c.extract d) := by
  have hcast : ∀ {least k greatest : ℕ}, least ≤ k ∧ k ≤ greatest →
      (least : ℤ) ≤ k ∧ (k : ℤ) ≤ greatest := by
    intro least k greatest h
    exact_mod_cast h
  cases c with
  | weekday => exact (inRange_iff rfl).mpr (hcast d.weekday_bounds)
  | day => exact (inRange_iff rfl).mpr (hcast d.day_bounds)
  | month => exact (inRange_iff rfl).mpr (hcast d.month_bounds)
  | year => simp [InRange, range?]
  | week => exact (inRange_iff rfl).mpr (hcast d.isoWeek_bounds)
  | dayOfYear => exact (inRange_iff rfl).mpr (hcast d.dayOfYear_bounds)

/-- Every value in the range of a component is the one of some day. The first month of 2024 starts with a
Monday and has 31 days, and the year has 366. -/
theorem exists_extract_eq (hc : c ≠ year) (h : c.InRange n) : ∃ d : Date, c.extract d = n := by
  obtain ⟨k, rfl⟩ : ∃ k : ℕ, n = k := by
    obtain ⟨least, greatest, hr⟩ := exists_range hc
    have hpos : 0 ≤ least := by cases c <;> cases hr <;> decide
    exact Int.eq_ofNat_of_zero_le (hpos.trans ((inRange_iff hr).mp h).1)
  cases c with
  | weekday =>
    have hall : ∀ k ≤ 7, 1 ≤ k → ∃ h : IsDate 2024 1 k, Date.weekday ⟨2024, 1, k, h⟩ = k := by decide
    obtain ⟨hpos, hle⟩ := (inRange_iff rfl).mp h
    obtain ⟨hdate, hk⟩ := hall k (by omega) (by omega)
    exact ⟨_, congrArg Nat.cast hk⟩
  | day =>
    have hall : ∀ k ≤ 31, 1 ≤ k → IsDate 2024 1 k := by decide
    obtain ⟨hpos, hle⟩ := (inRange_iff rfl).mp h
    exact ⟨⟨2024, 1, k, hall k (by omega) (by omega)⟩, rfl⟩
  | month =>
    have hall : ∀ k ≤ 12, 1 ≤ k → IsDate 2024 k 1 := by decide
    obtain ⟨hpos, hle⟩ := (inRange_iff rfl).mp h
    exact ⟨⟨2024, k, 1, hall k (by omega) (by omega)⟩, rfl⟩
  | year => exact absurd rfl hc
  | week =>
    obtain ⟨hpos, hle⟩ := (inRange_iff rfl).mp h
    obtain ⟨d, hd⟩ := Date.exists_isoWeek (n := k) (by omega) (by omega)
    exact ⟨d, congrArg Nat.cast hd⟩
  | dayOfYear =>
    have hlen : daysInYear 2024 = 366 := by decide
    obtain ⟨hpos, hle⟩ := (inRange_iff rfl).mp h
    obtain ⟨d, -, hd⟩ : ∃ d : Date, d.year = 2024 ∧ d.dayOfYear = k :=
      Date.exists_dayOfYear_eq (by decide) (by decide) (by omega) (by omega)
    exact ⟨d, congrArg Nat.cast hd⟩

theorem exists_extract_iff {least greatest : ℤ} (h : c.range? = some (least, greatest)) :
    (∃ t : Timestamp, c.extract t.date = n) ↔ least ≤ n ∧ n ≤ greatest := by
  rw [← inRange_iff h]
  constructor
  · rintro ⟨t, rfl⟩
    exact c.inRange_extract t.date
  · intro hn
    obtain ⟨d, hd⟩ := exists_extract_eq (by rintro rfl; cases h) hn
    exact ⟨d.midnight, hd⟩

theorem exists_extract_year_iff :
    (∃ t : Timestamp, year.extract t.date = n) ↔ Date.minYear ≤ n ∧ n ≤ Date.maxYear := by
  constructor
  · rintro ⟨t, rfl⟩
    exact ⟨t.date.isDate.1, t.date.isDate.2.1⟩
  · rintro ⟨hmin, hmax⟩
    have hday : 1 ≤ daysInMonth n 1 := show 1 ≤ 31 by decide
    exact ⟨Date.midnight ⟨n, 1, 1, hmin, hmax, Nat.le_refl 1, hday⟩, rfl⟩

end DateComponent

/-! ## Conditions -/

namespace Condition

variable {c : DateComponent} {i : ℤ}

theorem exists_holds_equal_iff :
    (∃ r, (leaf (.date c .equal i)).holds r = true) ↔ ∃ t : Timestamp, c.extract t.date = i := by
  simp only [holds_leaf, Leaf.holds, Option.any_eq_true, Operator.holdsOfInts_equal_iff]
  constructor
  · rintro ⟨r, t, -, ht⟩
    exact ⟨t, ht⟩
  · rintro ⟨t, ht⟩
    exact ⟨{ timestamp := some t }, t, rfl, ht⟩

theorem ofSpec_dateSpec_ofInt {op : Operator} {name : String} (hop : name ∈ op.aliases)
    (hfits : FitsDateValue i) (hrange : c.InRange i) :
    ofSpec (dateSpec c name (.ofInt i)) = .ok (leaf (.date c op i)) := by
  rw [ofSpec_dateSpec_eq_ok_iff]
  exact ⟨op, i, hop, rfl, Leaf.dateValueOf_eq_ok_iff.mp (Leaf.dateValueOf_ofInt.mpr ⟨⟨hfits, hrange⟩, rfl⟩)⟩

/-- The range of a component other than the year is exact: it holds the values that the component has at
the timestamps of the calendar and no other. So its bounds are bounds for every receipt with a timestamp,
and a value that is accepted can be met. A year can be met if the calendar has it. -/
theorem holds_date_range :
    (∀ c : DateComponent, c ≠ .year → ∃ least greatest, c.range? = some (least, greatest) ∧
      (∀ n, (∃ t : Timestamp, c.extract t.date = n) ↔ least ≤ n ∧ n ≤ greatest) ∧
      ofSpec (dateSpec c ">=" (.ofInt least)) = .ok (leaf (.date c .greaterOrEqual least)) ∧
      ofSpec (dateSpec c ">" (.ofInt greatest)) = .ok (leaf (.date c .greater greatest)) ∧
      ∀ r : Receipt, r.timestamp.isSome = true →
        (leaf (.date c .greaterOrEqual least)).holds r = true ∧
          (leaf (.date c .greater greatest)).holds r = false) ∧
    ∀ (c : DateComponent) (name : String) (value : Json) (i : ℤ),
      ofSpec (dateSpec c name value) = .ok (leaf (.date c .equal i)) →
        ((∃ r, (leaf (.date c .equal i)).holds r = true) ↔
          (c = .year → Date.minYear ≤ i ∧ i ≤ Date.maxYear)) := by
  refine ⟨fun c hc => ?_, fun c name value i h => ?_⟩
  · obtain ⟨least, greatest, hr⟩ := DateComponent.exists_range hc
    have hvalues : ∀ n, (∃ t : Timestamp, c.extract t.date = n) ↔ least ≤ n ∧ n ≤ greatest :=
      fun n => DateComponent.exists_extract_iff hr
    have hbounds : FitsDateValue least ∧ FitsDateValue greatest ∧ least ≤ greatest := by
      simp only [FitsDateValue]
      cases c <;> cases hr <;> decide
    obtain ⟨hleast, hgreatest, hle⟩ := hbounds
    refine ⟨least, greatest, hr, hvalues, ?_, ?_, fun r hstamped => ?_⟩
    · exact ofSpec_dateSpec_ofInt (by simp [Operator.aliases]) hleast
        ((DateComponent.inRange_iff hr).mpr ⟨le_refl _, hle⟩)
    · exact ofSpec_dateSpec_ofInt (by simp [Operator.aliases]) hgreatest
        ((DateComponent.inRange_iff hr).mpr ⟨hle, le_refl _⟩)
    · obtain ⟨t, ht⟩ := Option.isSome_iff_exists.mp hstamped
      obtain ⟨hmin, hmax⟩ := (hvalues (c.extract t.date)).mp ⟨t, rfl⟩
      simp only [holds_leaf, Leaf.holds, ht, Option.any_some, ← Bool.not_eq_true,
        Operator.holdsOfInts_greaterOrEqual_iff, Operator.holdsOfInts_greater_iff]
      omega
  · rw [exists_holds_equal_iff]
    obtain ⟨-, hrange⟩ : FitsDateValue i ∧ c.InRange i := (ofSpec_eq_ok_iff.mp h).wellFormed
    by_cases hc : c = .year
    · subst hc
      simp [DateComponent.exists_extract_year_iff]
    · obtain ⟨least, greatest, hr⟩ := DateComponent.exists_range hc
      have hbounds := (DateComponent.inRange_iff hr).mp hrange
      exact iff_of_true ((DateComponent.exists_extract_iff hr).mpr hbounds) fun h => absurd h hc

/-- The last week that a year can have is met, and no receipt has a later one. -/
theorem holds_date_range_lastWeek :
    DateComponent.week ≠ .year ∧ lateReceipt.timestamp.isSome = true ∧
      ofSpec (dateSpec .week "eq" (.ofInt 53)) = .ok (leaf (.date .week .equal 53)) ∧
      (∃ r, (leaf (.date .week .equal 53)).holds r = true) ∧
      (leaf (.date .week .greater 53)).holds lateReceipt = false := by
  have hweek : DateComponent.week ≠ .year := by decide
  have hspec : ofSpec (dateSpec .week "eq" (.ofInt 53)) = .ok (leaf (.date .week .equal 53)) :=
    ofSpec_dateSpec_ofInt (by decide) ⟨by decide, by decide⟩ (by decide)
  obtain ⟨hranges, hmet⟩ := holds_date_range
  obtain ⟨least, greatest, hr, -, -, -, hall⟩ := hranges .week hweek
  cases hr
  exact ⟨hweek, rfl, hspec, (hmet .week "eq" _ 53 hspec).mpr (by decide), (hall lateReceipt rfl).2⟩

/-- Years have no range, so one beyond the end of the calendar is accepted, although no receipt has it. -/
theorem never_holds_yearBeyondCalendar :
    ofSpec (dateSpec .year "==" (.ofInt 300000)) = .ok (leaf (.date .year .equal 300000)) ∧
      ∀ r : Receipt, (leaf (.date .year .equal 300000)).holds r = false := by
  refine ⟨ofSpec_dateSpec_ofInt (by decide) ⟨by decide, by decide⟩ (by decide), fun r => ?_⟩
  by_contra hr
  obtain ⟨-, hmax⟩ := DateComponent.exists_extract_year_iff.mp
    (exists_holds_equal_iff.mp ⟨r, by simpa using hr⟩)
  simp [Date.maxYear] at hmax

end Condition

end ReceiptRules
