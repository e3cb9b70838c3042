import Mathlib.Data.List.Forall2
import ReceiptRules.Proofs.Condition.Evaluation
import ReceiptRules.Proofs.Double.Comparison

/-!
# Conditions that are the same

`Condition.same` compares thresholds as numbers and header patterns by their keys, so it passes over
differences that evaluation might see: the sign of a zero, and the compiled form of a key. Conditions that
are the same hold of the same receipts nonetheless (`same_iff_alike_and_holds_eq`), because equal numbers
take the same place among all others, and because a key is compiled in one way only.
-/

namespace ReceiptRules

namespace Leaf

variable {l m : Leaf}

/-- Leaves that are equal in all parts, where thresholds count as numbers and patterns by their keys. -/
inductive Alike : Leaf → Leaf → Prop
  | amount (op : Operator) {x y : Float} (equal : (x == y) = true) : Alike (amount op x) (amount op y)
  | currency (code : String) : Alike (currency code) (currency code)
  | date (c : DateComponent) (op : Operator) (n : ℤ) : Alike (date c op n) (date c op n)
  | time (t : TimeOfDay) (r : Relation) : Alike (time t r) (time t r)
  | header {p q : HeaderPattern} (equal : p.source = q.source) (e : Expectation) :
      Alike (header p e) (header q e)
  | paymentMethod (method : String) : Alike (paymentMethod method) (paymentMethod method)
  | placeType (type : String) : Alike (placeType type) (placeType type)
  | placeTypeCategory (category : String) : Alike (placeTypeCategory category) (placeTypeCategory category)

/-- A leaf is like itself, unless its threshold is no number. -/
theorem alike_self (hl : ∀ op x, l ≠ amount op x) : Alike l l := by
  cases l with
  | amount op x => exact absurd rfl (hl op x)
  | currency => exact .currency _
  | date => exact .date _ _ _
  | time => exact .time _ _
  | header => exact .header rfl _
  | paymentMethod => exact .paymentMethod _
  | placeType => exact .placeType _
  | placeTypeCategory => exact .placeTypeCategory _

theorem same_iff_alike : l.same m = true ↔ Alike l m := by
  constructor
  · intro h
    unfold same at h
    split at h
    · simp only [Bool.and_eq_true, beq_iff_eq] at h
      obtain ⟨rfl, equal⟩ := h
      exact .amount _ equal
    · next hne =>
      obtain rfl := eq_of_beq h
      exact alike_self fun op x hl => hne op x op x hl hl
  · intro h
    cases h with
    | amount op equal => simp [same, equal]
    | header equal e => simp [same, HeaderPattern.ext equal]
    | _ => simp [same]

theorem Alike.holds_eq (h : Alike l m) (r : Receipt) : l.holds r = m.holds r := by
  cases h with
  | amount op equal => simp only [holds, Operator.holdsOfFloats, Double.floatOrder?_congr equal]
  | header equal e => rw [HeaderPattern.ext equal]
  | _ => rfl

end Leaf

namespace Condition

variable {a b : Condition} {cs ds : List Condition}

/-- Conditions of the same form with leaves that are alike. -/
inductive Alike : Condition → Condition → Prop
  | combination (op : Combinator) {cs ds : List Condition} (members : List.Forall₂ Alike cs ds) :
      Alike (.combination op cs) (.combination op ds)
  | not {a b : Condition} (inner : Alike a b) : Alike (.not a) (.not b)
  | leaf {l m : Leaf} (alike : l.Alike m) : Alike (.leaf l) (.leaf m)

theorem sameAll_iff_forall₂ : sameAll cs ds = true ↔ List.Forall₂ (fun c d => c.same d = true) cs ds := by
  induction cs generalizing ds with
  | nil => cases ds <;> simp [sameAll]
  | cons c cs ih => cases ds <;> simp [sameAll, ih]

theorem forall₂_iff_of_mem {α β : Type} {R S : α → β → Prop} {xs : List α} {ys : List β}
    (h : ∀ x ∈ xs, ∀ y, R x y ↔ S x y) : List.Forall₂ R xs ys ↔ List.Forall₂ S xs ys := by
  induction xs generalizing ys with
  | nil => simp
  | cons x xs ih =>
    simp only [List.forall₂_cons_left_iff, h x (by simp),
      fun ys => @ih ys fun x hx => h x (List.mem_cons_of_mem _ hx)]

/-- The comparison follows the form of both conditions. The induction is on the first; the second has to
be of the same form at each step. -/
theorem same_iff_alike : a.same b = true ↔ Alike a b := by
  induction a using Condition.induction generalizing b with
  | combination op cs ih =>
    cases b with
    | combination op' ds =>
      simp only [same, Bool.and_eq_true, beq_iff_eq, sameAll_iff_forall₂]
      rw [forall₂_iff_of_mem fun c hc d => ih c hc]
      constructor
      · rintro ⟨rfl, members⟩
        exact .combination op members
      · intro h
        cases h with
        | combination _ members => exact ⟨rfl, members⟩
    | not | leaf => simp only [same]; exact iff_of_false nofun nofun
  | not a ih =>
    cases b with
    | not b =>
      simp only [same, ih]
      constructor
      · exact .not
      · intro h
        cases h with
        | not inner => exact inner
    | combination | leaf => simp only [same]; exact iff_of_false nofun nofun
  | leaf l =>
    cases b with
    | leaf m =>
      simp only [same, Leaf.same_iff_alike]
      constructor
      · exact .leaf
      · intro h
        cases h with
        | leaf alike => exact alike
    | combination | not => simp only [same]; exact iff_of_false nofun nofun

/-! ## Evaluation -/

theorem map_holds_eq {r : Receipt} (members : List.Forall₂ Alike cs ds)
    (ih : ∀ c ∈ cs, ∀ d, Alike c d → c.holds r = d.holds r) :
    cs.map (holds r) = ds.map (holds r) := by
  induction members with
  | nil => rfl
  | cons hcd _ rest =>
    rw [List.map_cons, List.map_cons, ih _ (by simp) _ hcd, rest fun c hc => ih c (by simp [hc])]

theorem Alike.holds_eq (h : Alike a b) (r : Receipt) : a.holds r = b.holds r := by
  induction a using Condition.induction generalizing b with
  | combination op cs ih =>
    cases h with
    | @combination _ _ ds members =>
      have hmap := map_holds_eq members ih
      have hall : cs.all (holds r) = ds.all (holds r) := by
        simpa [Function.comp_def] using congrArg (List.all · id) hmap
      have hany : cs.any (holds r) = ds.any (holds r) := by
        simpa [Function.comp_def] using congrArg (List.any · id) hmap
      cases op <;> simp [hall, hany]
  | not a ih =>
    cases h with
    | not inner => simp [ih inner]
  | leaf l =>
    cases h with
    | leaf alike => simpa using alike.holds_eq r

/-- Two conditions are the same exactly if they are alike, and then they hold of the same receipts: the key
of a pattern, by which patterns are compared, is all that the pattern is made from. -/
theorem same_iff_alike_and_holds_eq (a b : Condition) :
    (a.same b = true ↔ Alike a b) ∧ (∀ p : HeaderPattern, HeaderPattern.ofKey p.source = .ok p) ∧
      (a.same b = true → ∀ r : Receipt, a.holds r = b.holds r) :=
  ⟨same_iff_alike, HeaderPattern.ofKey_source, fun h => (same_iff_alike.mp h).holds_eq⟩

/-- A condition on the total of a receipt. -/
def notAbove (threshold : Float) : Condition := .not (.leaf (.amount .greater threshold))

/-- The two zeros are different doubles, and still no receipt tells them apart as thresholds. -/
theorem holds_notAbove_zero :
    (0.0 : Float) ≠ -0.0 ∧ (notAbove 0.0).same (notAbove (-0.0)) = true ∧
      ∀ r : Receipt, (notAbove 0.0).holds r = (notAbove (-0.0)).holds r := by
  have hsame : (notAbove 0.0).same (notAbove (-0.0)) = true := by decide +kernel
  exact ⟨by decide +kernel, hsame, (same_iff_alike_and_holds_eq _ _).2.2 hsame⟩

end Condition

end ReceiptRules
