import ReceiptRules.Condition.Basic
import ReceiptRules.Receipt

/-!
# Whether a condition holds of a receipt

Evaluation never fails. A leaf about a field that the receipt does not have is false, and so is a leaf
about a header line that is not there, unless it says that there is none.
-/

namespace ReceiptRules

/-- Whether a leaf holds of a receipt. -/
def Leaf.holds (r : Receipt) : Leaf → Bool
  | amount op threshold => r.amountValue?.any fun value => op.holdsOfFloats value threshold
  | currency code => r.currency? == some code
  | date component op value =>
    r.timestamp.any fun t => op.holdsOfInts (component.extract t.date) value
  | time t relation => r.timestamp.any fun actual => t.holds relation actual.time
  | header pattern (.present flag) => r.header.any pattern.isMatch == flag
  | header pattern (.value text) => r.header.any fun line => (pattern.valuesAfter line).contains text
  | paymentMethod method => r.paymentMethod == some method
  | placeType type => r.placeType? == some type
  | placeTypeCategory category => r.placeTypeCategory? == some category

namespace Condition

mutual

/-- Whether a condition holds of a receipt. A combination of no conditions holds if all are asked for,
and not if any is. -/
def holds (r : Receipt) : Condition → Bool
  | combination .all cs => allHold r cs
  | combination .any cs => anyHolds r cs
  | not c => !c.holds r
  | leaf l => l.holds r

def allHold (r : Receipt) : List Condition → Bool
  | [] => true
  | c :: cs => c.holds r && allHold r cs

def anyHolds (r : Receipt) : List Condition → Bool
  | [] => false
  | c :: cs => c.holds r || anyHolds r cs

end

@[simp] theorem allHold_eq (r : Receipt) (cs : List Condition) : allHold r cs = cs.all (holds r) := by
  induction cs with
  | nil => rfl
  | cons c cs ih => simp [allHold, ih]

@[simp] theorem anyHolds_eq (r : Receipt) (cs : List Condition) : anyHolds r cs = cs.any (holds r) := by
  induction cs with
  | nil => rfl
  | cons c cs ih => simp [anyHolds, ih]

@[simp] theorem holds_all (r : Receipt) (cs : List Condition) :
    (combination .all cs).holds r = cs.all (holds r) := by simp [holds]

@[simp] theorem holds_any (r : Receipt) (cs : List Condition) :
    (combination .any cs).holds r = cs.any (holds r) := by simp [holds]

@[simp] theorem holds_not (r : Receipt) (c : Condition) : (not c).holds r = !c.holds r := by
  simp [holds]

@[simp] theorem holds_leaf (r : Receipt) (l : Leaf) : (leaf l).holds r = l.holds r := by
  simp [holds]

end Condition

end ReceiptRules
