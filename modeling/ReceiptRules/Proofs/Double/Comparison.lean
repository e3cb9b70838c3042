import Mathlib.Data.Int.Basic
import ReceiptRules.Condition.Operator

/-!
# Order of doubles

The order of two doubles is the one that Lean's own model of doubles gives them unpacked
(`floatOrder?_eq_compare`). Two doubles have an order unless one of them is no number
(`floatOrder?_eq_none_iff`). A double takes the same place among all others as one that is equal to it
(`floatOrder?_congr`), although the two may differ: zero has two signs.
-/

namespace ReceiptRules.Double

open Float.Model

/-! ## Unpacked doubles -/

theorem eq_of_compare_sign {s t : UnpackedFloat.Sign} (h : compare s t = .eq) : s = t := by
  cases s <;> cases t <;> first | rfl | cases h

theorem compare_sign_swap (s t : UnpackedFloat.Sign) : (compare s t).swap = compare t s := by
  cases s <;> cases t <;> rfl

theorem swap_then_compare (e₁ e₂ : ℤ) (m₁ m₂ : ℕ) :
    ((compare e₁ e₂).then (compare m₁ m₂)).swap = (compare e₂ e₁).then (compare m₂ m₁) := by
  rw [Ordering.swap_then, ← Std.OrientedOrd.eq_swap, ← Std.OrientedOrd.eq_swap]

theorem then_compare_eq_iff {e₁ e₂ : ℤ} {m₁ m₂ : ℕ} :
    (compare e₁ e₂).then (compare m₁ m₂) = .eq ↔ e₁ = e₂ ∧ m₁ = m₂ := by
  simp [Ordering.then_eq_eq]

theorem swap_then_compare_eq_iff {e₁ e₂ : ℤ} {m₁ m₂ : ℕ} :
    ((compare e₁ e₂).then (compare m₁ m₂)).swap = .eq ↔ e₁ = e₂ ∧ m₁ = m₂ := by
  rw [swap_then_compare, then_compare_eq_iff, eq_comm, eq_comm (a := m₁)]

theorem compare_swap (a b : UnpackedFloat) :
    (a.compare b).map Ordering.swap = b.compare a := by
  cases a with
  | notANumber => cases b <;> rfl
  | infinity s =>
    cases b with
    | infinity t => exact congrArg some (compare_sign_swap s t)
    | _ => cases s <;> rfl
  | zero s =>
    cases b with
    | finite t => cases t <;> rfl
    | infinity t => cases t <;> rfl
    | _ => rfl
  | finite s m e =>
    cases b with
    | notANumber => cases s <;> rfl
    | infinity t => cases s <;> cases t <;> rfl
    | zero t => cases s <;> rfl
    | finite t n f =>
      cases s <;> cases t
      case positive.positive => exact congrArg some (swap_then_compare e f m n)
      case negative.negative =>
        exact congrArg (fun o => some o.swap) (swap_then_compare e f m n)
      all_goals rfl

/-- Unpacked doubles that are equal are the same, unless they are zeros. -/
theorem eq_or_zero_of_compare {a b : UnpackedFloat} (h : a.compare b = some .eq) :
    a = b ∨ ∃ s t, a = .zero s ∧ b = .zero t := by
  cases a with
  | notANumber => cases b <;> cases h
  | infinity s =>
    cases b with
    | infinity t => exact .inl (congrArg _ (eq_of_compare_sign (Option.some.inj h)))
    | _ => cases s <;> cases h
  | zero s =>
    cases b with
    | zero t => exact .inr ⟨s, t, rfl, rfl⟩
    | infinity t => cases t <;> cases h
    | finite t => cases t <;> cases h
    | notANumber => cases h
  | finite s m e =>
    cases b with
    | notANumber => cases s <;> cases h
    | infinity t => cases s <;> cases t <;> cases h
    | zero t => cases s <;> cases h
    | finite t n f =>
      have heq : s = t ∧ e = f ∧ m = n := by
        cases s <;> cases t
        case positive.positive => exact ⟨rfl, then_compare_eq_iff.mp (Option.some.inj h)⟩
        case negative.negative => exact ⟨rfl, swap_then_compare_eq_iff.mp (Option.some.inj h)⟩
        all_goals cases h
      obtain ⟨rfl, rfl, rfl⟩ := heq
      exact .inl rfl

theorem compare_congr {a b : UnpackedFloat} (h : a.compare b = some .eq) (c : UnpackedFloat) :
    c.compare a = c.compare b := by
  rcases eq_or_zero_of_compare h with rfl | ⟨s, t, rfl, rfl⟩
  · rfl
  · cases c with
    | infinity u => cases u <;> rfl
    | finite u => cases u <;> rfl
    | _ => rfl

theorem isNaN_iff {a : UnpackedFloat} : a.isNaN = true ↔ a = .notANumber := by
  cases a with
  | notANumber => exact iff_of_true rfl rfl
  | _ => exact iff_of_false nofun nofun

theorem exists_compare_eq_some {a b : UnpackedFloat} (ha : a ≠ .notANumber) (hb : b ≠ .notANumber) :
    ∃ o, a.compare b = some o := by
  cases a with
  | notANumber => exact absurd rfl ha
  | infinity s =>
    cases b with
    | notANumber => exact absurd rfl hb
    | infinity t => exact ⟨_, rfl⟩
    | zero | finite => cases s <;> exact ⟨_, rfl⟩
  | zero s =>
    cases b with
    | notANumber => exact absurd rfl hb
    | zero t => exact ⟨_, rfl⟩
    | infinity t | finite t => cases t <;> exact ⟨_, rfl⟩
  | finite s =>
    cases b with
    | notANumber => exact absurd rfl hb
    | zero => cases s <;> exact ⟨_, rfl⟩
    | infinity t | finite t => cases s <;> cases t <;> exact ⟨_, rfl⟩

theorem compare_eq_none_iff {a b : UnpackedFloat} :
    a.compare b = none ↔ a = .notANumber ∨ b = .notANumber := by
  constructor
  · intro h
    by_contra hnumbers
    obtain ⟨ha, hb⟩ := not_or.mp hnumbers
    obtain ⟨o, ho⟩ := exists_compare_eq_some ha hb
    cases h.symm.trans ho
  · rintro (rfl | rfl)
    · rfl
    · rw [← compare_swap]
      rfl

/-! ## Doubles -/

theorem lt_iff_compare {x y : Float} :
    x < y ↔ x.toModel.unpack.compare y.toModel.unpack = some .lt := by
  change (decide (x.toModel < y.toModel)) = true ↔ _
  rw [decide_eq_true_iff]
  exact beq_iff_eq

theorem beq_iff_compare {x y : Float} :
    (x == y) = true ↔ x.toModel.unpack.compare y.toModel.unpack = some .eq := by
  change (x.toModel.unpack.compare y.toModel.unpack == some .eq) = true ↔ _
  exact beq_iff_eq

theorem le_iff_compare {x y : Float} :
    x ≤ y ↔ (x.toModel.unpack.compare y.toModel.unpack).any Ordering.isLE = true := by
  change (decide (x.toModel ≤ y.toModel)) = true ↔ _
  rw [decide_eq_true_iff]
  exact Iff.rfl

/-- The order of two doubles is the order of the unpacked ones. -/
theorem floatOrder?_eq_compare (x y : Float) :
    Operator.floatOrder? x y = x.toModel.unpack.compare y.toModel.unpack := by
  have hswap := compare_swap x.toModel.unpack y.toModel.unpack
  simp only [Operator.floatOrder?, lt_iff_compare, beq_iff_compare, ← hswap]
  rcases x.toModel.unpack.compare y.toModel.unpack with _ | _ | _ | _ <;> rfl

theorem floatOrder?_swap (x y : Float) :
    (Operator.floatOrder? x y).map Ordering.swap = Operator.floatOrder? y x := by
  rw [floatOrder?_eq_compare, floatOrder?_eq_compare, compare_swap]

/-- Two doubles have no order exactly if one of them is no number. -/
theorem floatOrder?_eq_none_iff {x y : Float} :
    Operator.floatOrder? x y = none ↔ x.isNaN = true ∨ y.isNaN = true := by
  rw [floatOrder?_eq_compare, compare_eq_none_iff, ← isNaN_iff, ← isNaN_iff]
  exact Iff.rfl

/-- Equal doubles are ordered alike to any other. -/
theorem floatOrder?_congr {x y : Float} (h : (x == y) = true) (v : Float) :
    Operator.floatOrder? v x = Operator.floatOrder? v y := by
  rw [floatOrder?_eq_compare, floatOrder?_eq_compare]
  exact compare_congr (beq_iff_compare.mp h) _

end ReceiptRules.Double
