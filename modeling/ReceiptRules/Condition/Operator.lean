/-!
# Comparison operators

The six comparisons between a value of a receipt and a value of a condition. An operator is decided by
the order of the two, where there may be none: a double that is no number has no order to any other.
-/

namespace ReceiptRules

/-- A comparison operator. -/
inductive Operator where
  | equal
  | notEqual
  | greater
  | greaterOrEqual
  | less
  | lessOrEqual
  deriving Repr, DecidableEq

namespace Operator

/-- The operator with a name; each has a symbol and two words. -/
def ofName? : String → Option Operator
  | "==" | "eq" | "equals" => some equal
  | "!=" | "ne" | "not_equals" => some notEqual
  | ">" | "gt" | "greater_than" => some greater
  | ">=" | "gte" | "greater_than_or_equal" => some greaterOrEqual
  | "<" | "lt" | "less_than" => some less
  | "<=" | "lte" | "less_than_or_equal" => some lessOrEqual
  | _ => none

/-- The symbol, under which an operator is written. -/
def symbol : Operator → String
  | equal => "=="
  | notEqual => "!="
  | greater => ">"
  | greaterOrEqual => ">="
  | less => "<"
  | lessOrEqual => "<="

/-- Whether an operator holds of two values in the given order. Without an order, only being different
holds. -/
def accepts : Operator → Option Ordering → Bool
  | equal, o => o == some .eq
  | notEqual, o => o != some .eq
  | greater, o => o == some .gt
  | greaterOrEqual, o => o == some .gt || o == some .eq
  | less, o => o == some .lt
  | lessOrEqual, o => o == some .lt || o == some .eq

/-- The order of two doubles, if they have one. The two zeros are equal. -/
def floatOrder? (x y : Float) : Option Ordering :=
  if x < y then some .lt else if x == y then some .eq else if y < x then some .gt else none

/-- Whether an operator holds of two doubles. -/
def holdsOfFloats (op : Operator) (actual expected : Float) : Bool :=
  op.accepts (floatOrder? actual expected)

/-- Whether an operator holds of two integers. -/
def holdsOfInts (op : Operator) (actual expected : Int) : Bool :=
  op.accepts (some (compare actual expected))

/-- Reading the symbol of an operator gives the operator. -/
@[simp] theorem ofName?_symbol (op : Operator) : ofName? op.symbol = some op := by
  cases op <;> rfl

end Operator

end ReceiptRules
