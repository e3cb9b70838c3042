import Mathlib.Tactic.Common
import ReceiptRules.Proofs.Condition.Fields
import ReceiptRules.Proofs.Double.Comparison

/-!
# Comparisons and their complements

Two kinds of leaves compare a value of a receipt with a value of their own: those on the amount compare
doubles, and those on the date compare integers. The order of the two values decides
(`Operator.Orders.accepts_iff`). Each operator has a complement, which holds of two values with an order
exactly if the operator does not.

Still the complement of a comparison is not its negation. Where the receipt has no value no comparison
holds, and where one of the values is no number only being different does. So a comparison and its
complement can fail together, and then the negation of the one differs from the other
(`Condition.holds_comparison`). Of the leaves that say that some header line has a key, or that none has,
exactly one holds of every receipt.
-/

namespace ReceiptRules

/-! ## Operators -/

namespace Operator

/-- What an operator says of two values. -/
def Relates {α : Type} [BEq α] [LT α] [LE α] : Operator → α → α → Prop
  | equal, x, y => (x == y) = true
  | notEqual, x, y => (x == y) = false
  | greater, x, y => y < x
  | greaterOrEqual, x, y => y ≤ x
  | less, x, y => x < y
  | lessOrEqual, x, y => x ≤ y

/-- The operator that holds of two values with an order exactly if the given one does not. -/
def complement : Operator → Operator
  | equal => notEqual
  | notEqual => equal
  | greater => lessOrEqual
  | greaterOrEqual => less
  | less => greaterOrEqual
  | lessOrEqual => greater

/-- Whether an operator asks for more than whether two values are equal. -/
def IsOrdering (op : Operator) : Prop := op ≠ equal ∧ op ≠ notEqual

/-- The comparisons of a type are those of an order, which two values need not have. -/
structure Orders {α : Type} [BEq α] [LT α] [LE α] (order? : α → α → Option Ordering) : Prop where
  swap : ∀ x y, (order? x y).map Ordering.swap = order? y x
  beq_iff : ∀ x y, (x == y) = true ↔ order? x y = some .eq
  lt_iff : ∀ x y, x < y ↔ order? x y = some .lt
  le_iff : ∀ x y, x ≤ y ↔ (order? x y).any Ordering.isLE = true

theorem Orders.accepts_iff {α : Type} [BEq α] [LT α] [LE α] {order? : α → α → Option Ordering}
    (h : Orders order?) (op : Operator) (x y : α) :
    op.accepts (order? x y) = true ↔ op.Relates x y := by
  -- Each comparison becomes a statement about `order? x y`, which has four values.
  cases op <;>
    simp only [Relates, h.beq_iff, h.lt_iff, h.le_iff, ← h.swap x y, ← Bool.not_eq_true] <;>
    rcases order? x y with _ | _ | _ | _ <;> decide

theorem orders_compare : Orders fun m n : ℤ => some (compare m n) where
  swap m n := congrArg some Std.OrientedOrd.eq_swap.symm
  beq_iff m n := by rw [Option.some.injEq, Int.compare_eq_eq, beq_iff_eq]
  lt_iff m n := by rw [Option.some.injEq, Int.compare_eq_lt]
  le_iff m n := Int.isLE_compare.symm

theorem orders_floatOrder? : Orders floatOrder? where
  swap := Double.floatOrder?_swap
  beq_iff x y := by rw [Double.beq_iff_compare, Double.floatOrder?_eq_compare]
  lt_iff x y := by rw [Double.lt_iff_compare, Double.floatOrder?_eq_compare]
  le_iff x y := by rw [Double.le_iff_compare, Double.floatOrder?_eq_compare]

variable {op : Operator}

theorem holdsOfInts_iff {m n : ℤ} : op.holdsOfInts m n = true ↔ op.Relates m n :=
  orders_compare.accepts_iff op m n

theorem holdsOfFloats_iff {x y : Float} : op.holdsOfFloats x y = true ↔ op.Relates x y :=
  orders_floatOrder?.accepts_iff op x y

theorem accepts_complement (op : Operator) (o : Ordering) :
    op.complement.accepts (some o) = !op.accepts (some o) := by
  cases op <;> cases o <;> rfl

theorem accepts_none_iff : op.accepts none = true ↔ op = notEqual := by
  cases op <;> decide

/-- An operator and its complement say the same only of values without an order, and only if they ask for
one. -/
theorem accepts_eq_complement_iff {o : Option Ordering} :
    op.accepts o = op.complement.accepts o ↔ o = none ∧ op.IsOrdering := by
  cases o with
  | none => cases op <;> simp [accepts, complement, IsOrdering]
  | some o => simp [accepts_complement]

end Operator

/-! ## Comparisons -/

/-- What a leaf compares, whatever its operator: the amount or a component of the date with a value. -/
inductive Comparison where
  | amount (threshold : Float)
  | date (component : DateComponent) (value : ℤ)

namespace Comparison

/-- The leaf that compares with an operator. -/
def leaf (op : Operator) : Comparison → Leaf
  | amount threshold => .amount op threshold
  | date component value => .date component op value

variable (r : Receipt)

/-- The receipt has no value to compare. -/
def Missing : Comparison → Prop
  | amount _ => r.amountValue? = none
  | date .. => r.timestamp = none

/-- The receipt has a value to compare, but this or the other value is no number. -/
def Unordered : Comparison → Prop
  | amount threshold =>
    ∃ value, r.amountValue? = some value ∧ (value.isNaN = true ∨ threshold.isNaN = true)
  | date .. => False

/-- The receipt has a value to compare, and the operator relates it to the other value. -/
def Holds (op : Operator) : Comparison → Prop
  | amount threshold => ∃ value, r.amountValue? = some value ∧ op.Relates value threshold
  | date component value =>
    ∃ t, r.timestamp = some t ∧ op.Relates (component.extract t.date) value

/-- The order of the value of the receipt and the other value, if the receipt has a value. -/
def order? : Comparison → Option (Option Ordering)
  | amount threshold => r.amountValue?.map fun value => Operator.floatOrder? value threshold
  | date component value => r.timestamp.map fun t => some (compare (component.extract t.date) value)

variable {r} {k : Comparison} {op : Operator}

theorem order?_eq_none_iff : k.order? r = none ↔ k.Missing r := by
  cases k <;> exact Option.map_eq_none_iff

theorem order?_eq_some_none_iff : k.order? r = some none ↔ k.Unordered r := by
  cases k with
  | amount threshold => simp [order?, Unordered, Double.floatOrder?_eq_none_iff]
  | date component value => simp [order?, Unordered]

/-- The order of the values is all that an operator looks at. -/
theorem holds_leaf (k : Comparison) (op : Operator) (r : Receipt) :
    (k.leaf op).holds r = (k.order? r).any op.accepts := by
  cases k with
  | amount threshold =>
    rw [order?, Option.any_map]
    rfl
  | date component value =>
    rw [order?, Option.any_map]
    rfl

theorem holds_leaf_iff : (k.leaf op).holds r = true ↔ k.Holds r op := by
  cases k with
  | amount threshold =>
    simp only [leaf, Leaf.holds, Option.any_eq_true, Operator.holdsOfFloats_iff]
    rfl
  | date component value =>
    simp only [leaf, Leaf.holds, Option.any_eq_true, Operator.holdsOfInts_iff]
    rfl

theorem holds_of_missing (h : k.Missing r) : (k.leaf op).holds r = false := by
  rw [holds_leaf, order?_eq_none_iff.mpr h, Option.any_none]

theorem holds_of_unordered (h : k.Unordered r) : (k.leaf op).holds r = true ↔ op = .notEqual := by
  rw [holds_leaf, order?_eq_some_none_iff.mpr h, Option.any_some, Operator.accepts_none_iff]

/-- A comparison says the same as its complement only if it has no value, or no order and asks for one. -/
theorem holds_eq_complement_iff :
    (k.leaf op).holds r = (k.leaf op.complement).holds r ↔
      k.Missing r ∨ k.Unordered r ∧ op.IsOrdering := by
  rw [holds_leaf, holds_leaf, ← order?_eq_none_iff, ← order?_eq_some_none_iff]
  cases k.order? r with
  | none => simp
  | some o => simp [Operator.accepts_eq_complement_iff]

end Comparison

/-! ## Conditions -/

namespace Condition

theorem holds_absent (p : HeaderPattern) (r : Receipt) :
    (leaf (.header p (.present false))).holds r = !(leaf (.header p (.present true))).holds r := by
  simp [Leaf.holds]

/-- What a comparison says of a receipt: what its operator says of the two values. Without a value on the
receipt it fails, and if one of the values is no number it holds only if it asks whether they differ. In
all other cases exactly one of a comparison and its complement holds. So the negation of a comparison
differs from the complement exactly if there is no value, or no order although the operator asks for one.
The leaves on the presence and the absence of a header line are complements without any exception. -/
theorem holds_comparison (r : Receipt) :
    (∀ (k : Comparison) (op : Operator),
      ((leaf (k.leaf op)).holds r = true ↔ k.Holds r op) ∧
      (k.Missing r → (leaf (k.leaf op)).holds r = false) ∧
      (k.Unordered r → ((leaf (k.leaf op)).holds r = true ↔ op = .notEqual)) ∧
      (¬ k.Missing r → ¬ k.Unordered r →
        (leaf (k.leaf op.complement)).holds r = !(leaf (k.leaf op)).holds r) ∧
      ((not (leaf (k.leaf op))).holds r ≠ (leaf (k.leaf op.complement)).holds r ↔
        k.Missing r ∨ k.Unordered r ∧ op.IsOrdering)) ∧
    ∀ p : HeaderPattern,
      (leaf (.header p (.present false))).holds r = !(leaf (.header p (.present true))).holds r := by
  refine ⟨fun k op => ?_, fun p => holds_absent p r⟩
  simp only [holds_not, holds_leaf]
  refine ⟨Comparison.holds_leaf_iff, Comparison.holds_of_missing, Comparison.holds_of_unordered,
    fun hvalue hordered => ?_, ?_⟩
  · rw [Bool.eq_not, ne_comm, Ne, Comparison.holds_eq_complement_iff]
    rintro (hmissing | ⟨hunordered, -⟩)
    · exact hvalue hmissing
    · exact hordered hunordered
  · rw [Ne, Bool.not_not_eq, Comparison.holds_eq_complement_iff]

/-- Of a receipt with an amount and without a timestamp. -/
theorem holds_comparison_partialReceipt :
    Comparison.Missing partialReceipt (.date .day 10) ∧
      Comparison.Unordered partialReceipt (.amount (0.0 / 0.0)) ∧
      ¬ Comparison.Missing partialReceipt (.amount 5) ∧
      ¬ Comparison.Unordered partialReceipt (.amount 5) ∧
      (leaf (.date .day .notEqual 10)).holds partialReceipt = false ∧
      (leaf (.amount .notEqual (0.0 / 0.0))).holds partialReceipt = true ∧
      (not (leaf (.amount .less (0.0 / 0.0)))).holds partialReceipt ≠
        (leaf (.amount .greaterOrEqual (0.0 / 0.0))).holds partialReceipt ∧
      (leaf (.amount .greaterOrEqual 5)).holds partialReceipt =
        !(leaf (.amount .less 5)).holds partialReceipt := by
  have hmissing : Comparison.Missing partialReceipt (.date .day 10) := rfl
  have hunordered : Comparison.Unordered partialReceipt (.amount (0.0 / 0.0)) :=
    ⟨5, rfl, .inr (by decide +kernel)⟩
  have hvalue : ¬ Comparison.Missing partialReceipt (.amount 5) := nofun
  have hordered : ¬ Comparison.Unordered partialReceipt (.amount 5) := by
    rintro ⟨value, hvalue, hnan⟩
    obtain rfl : 5 = value := Option.some.inj hvalue
    exact absurd hnan (by decide +kernel)
  obtain ⟨hcomparisons, -⟩ := holds_comparison partialReceipt
  obtain ⟨-, -, -, -, hdiffers⟩ := hcomparisons (.amount (0.0 / 0.0)) .less
  exact ⟨hmissing, hunordered, hvalue, hordered,
    (hcomparisons (.date .day 10) .notEqual).2.1 hmissing,
    ((hcomparisons (.amount (0.0 / 0.0)) .notEqual).2.2.1 hunordered).mpr rfl,
    hdiffers.mpr (.inr ⟨hunordered, by decide, by decide⟩),
    (hcomparisons (.amount 5) .less).2.2.2.1 hvalue hordered⟩

end Condition

end ReceiptRules
