import Mathlib.Tactic.Common
import ReceiptRules.Proofs.Condition.Fields

/-!
# The order of clock times

The time of a receipt is compared with the time of a condition number by number: first the hours, then the
minutes, and then the seconds if the condition has them. This is one linear order, that of the seconds
since midnight, counted in whole minutes if the condition has no seconds (`TimeOfDay.compare_eq`). So of
the three relations exactly one holds of a receipt that has a timestamp, and the two granularities fit
together at the first and at the last second of a minute (`holds_time`).
-/

namespace ReceiptRules

/-- Numbers of two digits are ordered by the upper digit first. -/
theorem compare_two_digits {base upper upper' lower lower' : ℕ} (h : lower < base)
    (h' : lower' < base) :
    compare (base * upper + lower) (base * upper' + lower') =
      (compare upper upper').then (compare lower lower') := by
  have hlt : ∀ {m n k l : ℕ}, k < base → m < n → base * m + k < base * n + l := by
    intro m n k l hk hmn
    have hle : base * (m + 1) ≤ base * n := Nat.mul_le_mul_left base hmn
    rw [Nat.mul_succ] at hle
    omega
  cases hupper : compare upper upper' with
  | lt => exact Nat.compare_eq_lt.mpr (hlt h (Nat.compare_eq_lt.mp hupper))
  | gt => exact Nat.compare_eq_gt.mpr (hlt h' (Nat.compare_eq_gt.mp hupper))
  | eq =>
    obtain rfl : upper = upper' := Nat.compare_eq_eq.mp hupper
    rw [Ordering.then]
    cases hlower : compare lower lower' with
    | lt => exact Nat.compare_eq_lt.mpr (by have := Nat.compare_eq_lt.mp hlower; omega)
    | eq => exact Nat.compare_eq_eq.mpr (by have := Nat.compare_eq_eq.mp hlower; omega)
    | gt => exact Nat.compare_eq_gt.mpr (by have := Nat.compare_eq_gt.mp hlower; omega)

/-- The whole seconds since midnight. In a leap second these are the ones of the second before. -/
def ClockTime.seconds (t : ClockTime) : ℕ := 3600 * t.hour + 60 * t.minute + t.second

namespace TimeOfDay

variable {t : TimeOfDay}

/-- The seconds since midnight, at the start of the minute if there are no seconds. -/
def seconds (t : TimeOfDay) : ℕ := 3600 * t.hour + 60 * t.minute + t.second.getD 0

/-- The seconds in the unit in which a time is compared: a minute if it has no seconds. -/
def unit (t : TimeOfDay) : ℕ := if t.second.isSome then 1 else 60

section

variable (hour minute second : ℕ)

@[simp] theorem seconds_none : seconds ⟨hour, minute, none⟩ = 3600 * hour + 60 * minute := rfl

@[simp] theorem seconds_some :
    seconds ⟨hour, minute, some second⟩ = 3600 * hour + 60 * minute + second := rfl

@[simp] theorem unit_none : unit ⟨hour, minute, none⟩ = 60 := rfl

@[simp] theorem unit_some : unit ⟨hour, minute, some second⟩ = 1 := rfl

end

/-- The order by hours, minutes and perhaps seconds is the order of the units since midnight. -/
theorem compare_eq (ht : t.IsValid) (actual : ClockTime) :
    t.compare actual = Ord.compare (actual.seconds / t.unit) (t.seconds / t.unit) := by
  obtain ⟨hour, minute, second⟩ := t
  obtain ⟨-, hminute, hsecond⟩ := ht
  have hactual := actual.isClockTime
  have hminutes : (Ord.compare actual.hour hour).then (Ord.compare actual.minute minute) =
      Ord.compare (60 * actual.hour + actual.minute) (60 * hour + minute) :=
    (compare_two_digits hactual.2.1 hminute).symm
  cases second with
  | none =>
    have hunits : actual.seconds / 60 = 60 * actual.hour + actual.minute := by
      have := hactual.2.2.1
      simp only [ClockTime.seconds]
      omega
    have hunits' : seconds ⟨hour, minute, none⟩ / 60 = 60 * hour + minute := by
      rw [seconds_none]
      omega
    rw [compare, unit_none, hunits, hunits', hminutes]
  | some second =>
    have hunits : actual.seconds = 60 * (60 * actual.hour + actual.minute) + actual.second := by
      simp only [ClockTime.seconds]
      omega
    have hunits' : seconds ⟨hour, minute, some second⟩ = 60 * (60 * hour + minute) + second := by
      rw [seconds_some]
      omega
    rw [compare, unit_some, Nat.div_one, Nat.div_one, hunits, hunits', hminutes]
    exact (compare_two_digits hactual.2.2.1 (hsecond second rfl)).symm

theorem holds_before_iff (ht : t.IsValid) (actual : ClockTime) :
    t.holds .before actual = true ↔ actual.seconds / t.unit < t.seconds / t.unit := by
  rw [holds, compare_eq ht, Relation.accepts, beq_iff_eq, Nat.compare_eq_lt]

theorem holds_exactly_iff (ht : t.IsValid) (actual : ClockTime) :
    t.holds .exactly actual = true ↔ actual.seconds / t.unit = t.seconds / t.unit := by
  rw [holds, compare_eq ht, Relation.accepts, beq_iff_eq, Nat.compare_eq_eq]

theorem holds_after_iff (ht : t.IsValid) (actual : ClockTime) :
    t.holds .after actual = true ↔ t.seconds / t.unit < actual.seconds / t.unit := by
  rw [holds, compare_eq ht, Relation.accepts, beq_iff_eq, Nat.compare_eq_gt]

/-- Of the three relations exactly one holds. -/
theorem existsUnique_holds (t : TimeOfDay) (actual : ClockTime) :
    ∃! relation, t.holds relation actual = true := by
  simp only [holds]
  cases t.compare actual with
  | lt => exact ⟨.before, rfl, fun relation h => by cases relation <;> first | rfl | cases h⟩
  | eq => exact ⟨.exactly, rfl, fun relation h => by cases relation <;> first | rfl | cases h⟩
  | gt => exact ⟨.after, rfl, fun relation h => by cases relation <;> first | rfl | cases h⟩

/-! ## Minutes and their first and last seconds -/

variable {hour minute : ℕ}

theorem holds_before_minute (hh : hour < 24) (hm : minute < 60) (actual : ClockTime) :
    holds ⟨hour, minute, none⟩ .before actual = holds ⟨hour, minute, some 0⟩ .before actual := by
  rw [Bool.eq_iff_iff, holds_before_iff ⟨hh, hm, by simp⟩, holds_before_iff ⟨hh, hm, by simp⟩]
  simp only [seconds_none, seconds_some, unit_none, unit_some]
  omega

theorem holds_after_minute (hh : hour < 24) (hm : minute < 60) (actual : ClockTime) :
    holds ⟨hour, minute, none⟩ .after actual = holds ⟨hour, minute, some 59⟩ .after actual := by
  rw [Bool.eq_iff_iff, holds_after_iff ⟨hh, hm, by simp⟩, holds_after_iff ⟨hh, hm, by simp⟩]
  simp only [seconds_none, seconds_some, unit_none, unit_some]
  omega

theorem holds_exactly_minute (hh : hour < 24) (hm : minute < 60) (actual : ClockTime) :
    holds ⟨hour, minute, none⟩ .exactly actual = true ↔
      holds ⟨hour, minute, some 0⟩ .before actual = false ∧
        holds ⟨hour, minute, some 59⟩ .after actual = false := by
  rw [holds_exactly_iff ⟨hh, hm, by simp⟩, ← Bool.not_eq_true, ← Bool.not_eq_true,
    holds_before_iff ⟨hh, hm, by simp⟩, holds_after_iff ⟨hh, hm, by simp⟩]
  simp only [seconds_none, seconds_some, unit_none, unit_some]
  omega

end TimeOfDay

namespace Condition

/-- What a condition on the time says of a receipt: the order of the units since midnight decides, and
without a timestamp nothing holds. A minute begins with its second 0 and ends with its second 59. -/
theorem holds_time {t : TimeOfDay} (ht : t.IsValid) (r : Receipt) :
    (∀ stamp, r.timestamp = some stamp →
      (∃! relation, (leaf (.time t relation)).holds r = true) ∧
      ((leaf (.time t .before)).holds r = true ↔
        stamp.time.seconds / t.unit < t.seconds / t.unit) ∧
      ((leaf (.time t .exactly)).holds r = true ↔
        stamp.time.seconds / t.unit = t.seconds / t.unit) ∧
      ((leaf (.time t .after)).holds r = true ↔
        t.seconds / t.unit < stamp.time.seconds / t.unit)) ∧
    (r.timestamp = none → ∀ relation, (leaf (.time t relation)).holds r = false) ∧
    ∀ hour minute, hour < 24 → minute < 60 →
      (leaf (.time ⟨hour, minute, none⟩ .before)).holds r =
        (leaf (.time ⟨hour, minute, some 0⟩ .before)).holds r ∧
      (leaf (.time ⟨hour, minute, none⟩ .after)).holds r =
        (leaf (.time ⟨hour, minute, some 59⟩ .after)).holds r ∧
      ((leaf (.time ⟨hour, minute, none⟩ .exactly)).holds r = true ↔
        r.timestamp.isSome = true ∧
          (leaf (.time ⟨hour, minute, some 0⟩ .before)).holds r = false ∧
          (leaf (.time ⟨hour, minute, some 59⟩ .after)).holds r = false) := by
  simp only [holds_leaf, Leaf.holds]
  cases r.timestamp with
  | none => simp
  | some stamp =>
    refine ⟨fun stamp' hstamp => ?_, by simp, fun hour minute hh hm => ?_⟩
    · obtain rfl : stamp = stamp' := Option.some.inj hstamp
      exact ⟨t.existsUnique_holds stamp.time, TimeOfDay.holds_before_iff ht stamp.time,
        TimeOfDay.holds_exactly_iff ht stamp.time, TimeOfDay.holds_after_iff ht stamp.time⟩
    · simp only [Option.any_some, Option.isSome_some, true_and]
      exact ⟨TimeOfDay.holds_before_minute hh hm stamp.time,
        TimeOfDay.holds_after_minute hh hm stamp.time,
        TimeOfDay.holds_exactly_minute hh hm stamp.time⟩

/-- A leap second is still in the last minute of its day, and still at its last second. -/
theorem holds_time_leapSecond :
    TimeOfDay.IsValid ⟨23, 59, some 59⟩ ∧ lateReceipt.timestamp.isSome = true ∧
      (∃! relation, (leaf (.time ⟨23, 59, some 59⟩ relation)).holds lateReceipt = true) ∧
      (leaf (.time ⟨23, 59, some 59⟩ .exactly)).holds lateReceipt = true ∧
      (leaf (.time ⟨23, 59, none⟩ .exactly)).holds lateReceipt = true := by
  have ht : TimeOfDay.IsValid ⟨23, 59, some 59⟩ := by decide
  obtain ⟨hstamped, -, hminutes⟩ := holds_time ht lateReceipt
  obtain ⟨hunique, -, hexactly, -⟩ := hstamped _ rfl
  obtain ⟨-, -, hminute⟩ := hminutes 23 59 (by decide) (by decide)
  exact ⟨ht, rfl, hunique, hexactly.mpr (by decide), hminute.mpr (by decide)⟩

end Condition

end ReceiptRules
