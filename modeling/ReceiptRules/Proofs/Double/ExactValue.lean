import Mathlib.Tactic.FieldSimp
import Mathlib.Tactic.Positivity
import Mathlib.Tactic.Ring
import ReceiptRules.Json.Basic

/-!
# Exact values of numbers

The rational number that a double or a JSON number is, and when it is whole.
-/

namespace ReceiptRules

namespace Binary

/-- The sign of a number as a factor. -/
def sign (b : Binary) : ℤ := if b.negative then -1 else 1

/-- The exact value. -/
def value (b : Binary) : ℚ := b.sign * b.mantissa * 2 ^ b.exponent

theorem sign_mul_sign (b : Binary) : b.sign * b.sign = 1 := by
  cases h : b.negative <;> simp [sign, h]

theorem toInt?_of_nonneg {b : Binary} (h : 0 ≤ b.exponent) :
    b.toInt? = some (b.sign * (b.mantissa * 2 ^ b.exponent.toNat : ℕ)) := by
  simp only [toInt?, if_pos h, sign]
  split <;> simp

theorem toInt?_of_neg {b : Binary} (h : b.exponent < 0) :
    b.toInt? = if b.mantissa % 2 ^ b.exponent.natAbs = 0 then
      some (b.sign * (b.mantissa / 2 ^ b.exponent.natAbs : ℕ)) else none := by
  simp only [toInt?, if_neg (not_le.mpr h), sign]
  split_ifs <;> simp_all

theorem value_of_nonneg {b : Binary} (h : 0 ≤ b.exponent) :
    b.value = (b.sign * (b.mantissa * 2 ^ b.exponent.toNat : ℕ) : ℤ) := by
  obtain ⟨k, hk⟩ := Int.eq_ofNat_of_zero_le h
  simp only [value, hk, Int.toNat_natCast, zpow_natCast]
  push_cast
  ring

theorem value_of_neg {b : Binary} (h : b.exponent < 0) :
    b.value = b.sign * b.mantissa / 2 ^ b.exponent.natAbs := by
  have hexp : b.exponent = -(b.exponent.natAbs : ℤ) := by omega
  rw [value, hexp, zpow_neg, zpow_natCast, Int.natAbs_neg, Int.natAbs_natCast, div_eq_mul_inv]

/-- The integer of a number is its exact value, if that is whole. -/
theorem toInt?_eq_some_iff {b : Binary} {i : ℤ} : b.toInt? = some i ↔ b.value = i := by
  rcases le_or_gt 0 b.exponent with h | h
  · rw [toInt?_of_nonneg h, value_of_nonneg h, Option.some.injEq, Int.cast_inj]
  · have hpow : (2 : ℚ) ^ b.exponent.natAbs ≠ 0 := by positivity
    have hint : b.value = i ↔ b.sign * (b.mantissa : ℤ) = i * 2 ^ b.exponent.natAbs := by
      rw [value_of_neg h, div_eq_iff hpow]
      exact_mod_cast Iff.rfl
    rw [toInt?_of_neg h, hint]
    constructor
    · intro hi
      split at hi
      case isFalse => cases hi
      case isTrue hmod =>
        cases hi
        have hdiv : (b.mantissa : ℤ) =
            (b.mantissa / 2 ^ b.exponent.natAbs : ℕ) * 2 ^ b.exponent.natAbs := by
          exact_mod_cast (Nat.div_mul_cancel (Nat.dvd_of_mod_eq_zero hmod)).symm
        rw [mul_assoc, ← hdiv]
    · intro hi
      have hm : (b.mantissa : ℤ) = b.sign * i * 2 ^ b.exponent.natAbs := by
        rw [mul_assoc, ← hi, ← mul_assoc, sign_mul_sign, one_mul]
      have hdvd : 2 ^ b.exponent.natAbs ∣ b.mantissa := by
        have hdvd : ((2 ^ b.exponent.natAbs : ℕ) : ℤ) ∣ b.mantissa := by
          refine ⟨b.sign * i, ?_⟩
          rw [hm]
          push_cast
          ring
        exact_mod_cast hdvd
      obtain ⟨q, hq⟩ := hdvd
      have hpow' : (2 : ℤ) ^ b.exponent.natAbs ≠ 0 := by positivity
      have hqi : b.sign * (q : ℤ) = i := by
        rw [hq] at hi
        push_cast at hi
        exact mul_right_cancel₀ hpow' (by rw [← hi]; ring)
      rw [if_pos (Nat.mod_eq_zero_of_dvd ⟨q, hq⟩), hq, Nat.mul_div_cancel_left _ (by positivity), hqi]

end Binary

namespace Number

/-- The exact value. -/
def value : Number → ℚ
  | integer n _ => n
  | float x _ => (Binary.ofFloat x).value

/-- The exact value, if it is a whole number. -/
def toInt? : Number → Option ℤ
  | integer n _ => some n
  | float x _ => (Binary.ofFloat x).toInt?

theorem toInt?_eq_some_iff {n : Number} {i : ℤ} : n.toInt? = some i ↔ n.value = i := by
  cases n with
  | integer n h => simp [toInt?, value]
  | float x h => exact Binary.toInt?_eq_some_iff

end Number

end ReceiptRules
