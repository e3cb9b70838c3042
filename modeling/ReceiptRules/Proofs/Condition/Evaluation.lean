import Mathlib.Tactic.Common
import ReceiptRules.Condition.Evaluation
import ReceiptRules.Proofs.Condition.Leaves

/-!
# Laws of evaluation

For each combinator there is a value that decides: a combination has it exactly if some member has it. So
combinations and negations follow the laws of Boolean algebra, at any depth and also where there are no
members (`holds_laws`): the dual of a condition says the opposite, a member that is a combination of the
same kind can be replaced by its own members, and members can be given in any order and any number of
times.
-/

namespace ReceiptRules

namespace Combinator

/-- The other combinator. -/
def dual : Combinator → Combinator
  | all => any
  | any => all

/-- The value of a member that decides a combination, whatever the other members say. -/
def deciding : Combinator → Bool
  | all => false
  | any => true

@[simp] theorem deciding_dual (op : Combinator) : op.dual.deciding = !op.deciding := by
  cases op <;> rfl

end Combinator

theorem eq_of_eq_iff_eq {a b d : Bool} (h : a = d ↔ b = d) : a = b := by
  revert a b d
  decide

namespace Condition

variable {r r' : Receipt} {op : Combinator} {cs ds : List Condition}

theorem holds_eq_deciding_iff :
    (combination op cs).holds r = op.deciding ↔ ∃ c ∈ cs, c.holds r = op.deciding := by
  cases op <;> simp [Combinator.deciding]

/-- Combinations say the same if both or neither of them have a member that decides. -/
theorem holds_combination_congr
    (h : (∃ c ∈ cs, c.holds r = op.deciding) ↔ ∃ d ∈ ds, d.holds r' = op.deciding) :
    (combination op cs).holds r = (combination op ds).holds r' := by
  apply eq_of_eq_iff_eq (d := op.deciding)
  rw [holds_eq_deciding_iff, holds_eq_deciding_iff, h]

/-! ## Duals -/

mutual

/-- A condition with the combinators exchanged everywhere, and with its leaves negated. -/
def dual : Condition → Condition
  | combination op cs => combination op.dual (dualAll cs)
  | not c => not c.dual
  | leaf l => not (leaf l)

def dualAll : List Condition → List Condition
  | [] => []
  | c :: cs => c.dual :: dualAll cs

end

@[simp] theorem dualAll_eq_map (cs : List Condition) : dualAll cs = cs.map dual := by
  induction cs with
  | nil => rfl
  | cons c cs ih => simp [dualAll, ih]

theorem holds_dual (c : Condition) (r : Receipt) : c.dual.holds r = !c.holds r := by
  induction c using Condition.induction with
  | combination op cs ih =>
    apply eq_of_eq_iff_eq (d := op.dual.deciding)
    calc (combination op cs).dual.holds r = op.dual.deciding
        ↔ ∃ c ∈ cs, c.dual.holds r = op.dual.deciding := by
          rw [dual, dualAll_eq_map, holds_eq_deciding_iff]
          simp only [List.mem_map, exists_exists_and_eq_and]
      _ ↔ ∃ c ∈ cs, c.holds r = op.deciding := by
          refine exists_congr fun c => and_congr_right fun hc => ?_
          rw [ih c hc, Combinator.deciding_dual, Bool.not_inj_iff]
      _ ↔ (!(combination op cs).holds r) = op.dual.deciding := by
          rw [← holds_eq_deciding_iff, Combinator.deciding_dual, Bool.not_inj_iff]
  | not c ih => rw [dual, holds_not, holds_not, ih]
  | leaf l => rw [dual, holds_not]

/-! ## Members -/

/-- A member that is a combination of the same kind can be replaced by its members. -/
theorem holds_splice (op : Combinator) (xs ys zs : List Condition) (r : Receipt) :
    (combination op (xs ++ [combination op ys] ++ zs)).holds r =
      (combination op (xs ++ ys ++ zs)).holds r := by
  apply holds_combination_congr
  simp only [List.mem_append, List.mem_singleton, or_and_right, exists_or, exists_eq_left,
    holds_eq_deciding_iff]

/-- Neither the order of the members matters nor how often each is there. -/
theorem holds_of_same_members (h : ∀ c, c ∈ cs ↔ c ∈ ds) :
    (combination op cs).holds r = (combination op ds).holds r := by
  apply holds_combination_congr
  exact exists_congr fun c => and_congr_left' (h c)

/-- The laws of Boolean algebra for conditions. -/
theorem holds_laws (r : Receipt) :
    (∀ c : Condition, c.dual.holds r = !c.holds r) ∧
      (∀ op xs ys zs, (combination op (xs ++ [combination op ys] ++ zs)).holds r =
        (combination op (xs ++ ys ++ zs)).holds r) ∧
      ∀ op xs ys, (∀ c, c ∈ xs ↔ c ∈ ys) →
        (combination op xs).holds r = (combination op ys).holds r :=
  ⟨fun c => c.holds_dual r, fun op xs ys zs => holds_splice op xs ys zs r,
    fun _ _ _ h => holds_of_same_members h⟩

/-- A condition that is true, and has a combination without members in it. -/
def noneOfNone : Condition := not (combination .any [])

theorem holds_laws_noneOfNone :
    (∀ c, c ∈ [noneOfNone, .leaf (.currency "EUR")] ↔
        c ∈ [.leaf (.currency "EUR"), noneOfNone, .leaf (.currency "EUR")]) ∧
      (combination .all [noneOfNone, .leaf (.currency "EUR")]).holds {} =
        (combination .all [.leaf (.currency "EUR"), noneOfNone, .leaf (.currency "EUR")]).holds {} := by
  have hmembers : ∀ c, c ∈ [noneOfNone, .leaf (.currency "EUR")] ↔
      c ∈ [.leaf (.currency "EUR"), noneOfNone, .leaf (.currency "EUR")] := by
    intro c
    simp only [List.mem_cons, List.not_mem_nil, or_false]
    tauto
  exact ⟨hmembers, (holds_laws {}).2.2 .all _ _ hmembers⟩

end Condition

end ReceiptRules
