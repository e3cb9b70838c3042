import ReceiptRules.Condition.Basic

/-!
# Conditions as trees

Induction on conditions, and the list of the leaves of a condition. What is true of all conditions is
shown for combinations from their members, for negations, and for leaves.
-/

namespace ReceiptRules.Condition

/-- Induction on conditions, with the hypothesis for each member of a combination. -/
@[elab_as_elim]
theorem induction {motive : Condition → Prop}
    (combination : ∀ op cs, (∀ c ∈ cs, motive c) → motive (.combination op cs))
    (not : ∀ c, motive c → motive (.not c)) (leaf : ∀ l, motive (.leaf l)) (c : Condition) :
    motive c := by
  refine @Condition.rec motive (fun cs => ∀ c ∈ cs, motive c) combination not leaf ?_ ?_ c
  · simp
  · rintro c cs hc hcs d (_ | ⟨_, hd⟩)
    · exact hc
    · exact hcs d hd

mutual

/-- The leaves of a condition, in their order. -/
def leaves : Condition → List Leaf
  | combination _ cs => allLeaves cs
  | not c => c.leaves
  | leaf l => [l]

def allLeaves : List Condition → List Leaf
  | [] => []
  | c :: cs => c.leaves ++ allLeaves cs

end

@[simp] theorem allLeaves_eq_flatMap (cs : List Condition) : allLeaves cs = cs.flatMap leaves := by
  induction cs with
  | nil => rfl
  | cons c cs ih => simp [allLeaves, ih]

end ReceiptRules.Condition
