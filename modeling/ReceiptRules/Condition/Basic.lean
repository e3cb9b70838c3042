import ReceiptRules.Condition.DateComponent
import ReceiptRules.Condition.HeaderPattern
import ReceiptRules.Condition.Operator
import ReceiptRules.Condition.TimeOfDay
import ReceiptRules.Json.Basic

/-!
# Conditions

A condition is a statement about a receipt: a leaf about one of its fields, or a combination of other
conditions. Each kind of condition has a key, under which it is written as a JSON object with one entry,
its spec. `Condition.toSpec` writes a spec, and `Condition.describe` a text to be read by people.
-/

namespace ReceiptRules

/-- The keys of leaves. -/
inductive LeafKey where
  | amount
  | currency
  | date
  | time
  | header
  | paymentMethod
  | placeType
  | placeTypeCategory
  deriving Repr, DecidableEq

/-- The keys of conditions that hold a list of conditions. -/
inductive Combinator where
  | all
  | any
  deriving Repr, DecidableEq

/-- The keys of conditions. -/
inductive Key where
  | combinator (c : Combinator)
  | not
  | leaf (k : LeafKey)
  deriving Repr, DecidableEq

def LeafKey.name : LeafKey → String
  | amount => "amount"
  | currency => "currency"
  | date => "date"
  | time => "time"
  | header => "header"
  | paymentMethod => "paymentMethod"
  | placeType => "placeType"
  | placeTypeCategory => "placeTypeCategory"

def Combinator.name : Combinator → String
  | all => "$and"
  | any => "$or"

namespace Key

def name : Key → String
  | combinator c => c.name
  | not => "$not"
  | leaf k => k.name

/-- All keys, in the order in which they are listed. -/
def known : List Key :=
  [combinator .all, combinator .any, not, leaf .amount, leaf .currency, leaf .date, leaf .time,
   leaf .header, leaf .paymentMethod, leaf .placeType, leaf .placeTypeCategory]

def ofName? (name : String) : Option Key := known.find? fun k => k.name == name

theorem mem_known (k : Key) : k ∈ known := by
  rcases k with (_ | _) | _ | (_ | _ | _ | _ | _ | _ | _ | _) <;> decide

@[simp] theorem ofName?_name (k : Key) : ofName? k.name = some k := by
  rcases k with (_ | _) | _ | (_ | _ | _ | _ | _ | _ | _ | _) <;> rfl

theorem name_of_ofName? {name : String} {k : Key} (h : ofName? name = some k) : k.name = name := by
  simpa using List.find?_some h

end Key

/-- What a header condition expects. -/
inductive Expectation where
  /-- Some line, or no line, has the key. -/
  | present (flag : Bool)
  /-- Some line has the key with this value after it. -/
  | value (text : String)
  deriving Repr, DecidableEq

/-- A statement about one field of a receipt. -/
inductive Leaf where
  | amount (op : Operator) (threshold : Float)
  | currency (code : String)
  | date (component : DateComponent) (op : Operator) (value : Int)
  | time (t : TimeOfDay) (relation : Relation)
  | header (pattern : HeaderPattern) (expected : Expectation)
  | paymentMethod (method : String)
  | placeType (type : String)
  | placeTypeCategory (category : String)
  deriving DecidableEq

/-- A condition on receipts. -/
inductive Condition where
  | combination (op : Combinator) (conditions : List Condition)
  | not (condition : Condition)
  | leaf (l : Leaf)

namespace Condition

mutual

/-- Decides whether two conditions are equal in all their parts. -/
def decEq : (c d : Condition) → Decidable (c = d)
  | combination op cs, combination op' ds =>
    have := decEqs cs ds
    decidable_of_iff (op = op' ∧ cs = ds) (by simp)
  | not c, not d =>
    have := decEq c d
    decidable_of_iff (c = d) (by simp)
  | leaf l, leaf m => decidable_of_iff (l = m) (by simp)
  | combination .., not _ | combination .., leaf _ | not _, combination .. | not _, leaf _
  | leaf _, combination .. | leaf _, not _ => isFalse nofun

def decEqs : (cs ds : List Condition) → Decidable (cs = ds)
  | [], [] => isTrue rfl
  | c :: cs, d :: ds =>
    have := decEq c d
    have := decEqs cs ds
    decidable_of_iff (c = d ∧ cs = ds) (by simp)
  | [], _ :: _ | _ :: _, [] => isFalse nofun

end

instance : DecidableEq Condition := decEq

end Condition

namespace Leaf

def key : Leaf → LeafKey
  | amount .. => .amount
  | currency .. => .currency
  | date .. => .date
  | time .. => .time
  | header .. => .header
  | paymentMethod .. => .paymentMethod
  | placeType .. => .placeType
  | placeTypeCategory .. => .placeTypeCategory

/-- What a leaf holds under its key. -/
def argument : Leaf → Json
  | amount op threshold => .array [.string op.symbol, .ofFloat threshold]
  | currency code => .string code
  | date component op value => .array [.string component.name, .string op.symbol, .ofInt value]
  | time t relation => .array [.string relation.name, .string t.text]
  | header pattern (.present flag) => .array [.string pattern.source, .bool flag]
  | header pattern (.value text) => .array [.string pattern.source, .string text]
  | paymentMethod method => .string method
  | placeType type => .string type
  | placeTypeCategory category => .string category

/-- A leaf as people read it. -/
def describe : Leaf → String
  | amount op threshold => "amount " ++ op.symbol ++ " " ++ Decimal.display threshold
  | currency code => "currency == \"" ++ code ++ "\""
  | date component op value => "date." ++ component.name ++ " " ++ op.symbol ++ " " ++ toString value
  | time t relation => "time " ++ relation.name ++ " " ++ t.text
  | header pattern (.present true) => "header \"" ++ pattern.source ++ "\" present"
  | header pattern (.present false) => "header \"" ++ pattern.source ++ "\" absent"
  | header pattern (.value text) => "header \"" ++ pattern.source ++ "\" == \"" ++ text ++ "\""
  | paymentMethod method => "paymentMethod == \"" ++ method ++ "\""
  | placeType type => "placeType == \"" ++ type ++ "\""
  | placeTypeCategory category => "placeTypeCategory == \"" ++ category ++ "\""

/-- Whether two leaves say the same. Thresholds are compared as numbers, so the two zeros are the same,
and a threshold that is no number is not even the same as itself. -/
def same : Leaf → Leaf → Bool
  | amount op x, amount op' y => op == op' && x == y
  | a, b => a == b

end Leaf

namespace Condition

def key : Condition → Key
  | combination op _ => .combinator op
  | not _ => .not
  | leaf l => .leaf l.key

/-- Whether a condition has no other conditions in it. -/
def isLeaf : Condition → Bool
  | leaf _ => true
  | _ => false

mutual

/-- The spec of a condition. -/
def toSpec : Condition → Json
  | combination op conditions => .object [(op.name, .array (toSpecs conditions))]
  | not condition => .object [(Key.not.name, condition.toSpec)]
  | leaf l => .object [(l.key.name, l.argument)]

def toSpecs : List Condition → List Json
  | [] => []
  | c :: cs => c.toSpec :: toSpecs cs

end

/-- The word for a combination of conditions. -/
def combinatorWord : Combinator → String
  | .all => "all"
  | .any => "any"

mutual

/-- A condition as people read it. -/
def describe : Condition → String
  | combination op conditions =>
    combinatorWord op ++ "(" ++ ", ".intercalate (describeAll conditions) ++ ")"
  | not condition => "not(" ++ condition.describe ++ ")"
  | leaf l => l.describe

def describeAll : List Condition → List String
  | [] => []
  | c :: cs => c.describe :: describeAll cs

end

mutual

/-- Whether two conditions say the same in the same way. -/
def same : Condition → Condition → Bool
  | combination op cs, combination op' ds => op == op' && sameAll cs ds
  | not c, not d => c.same d
  | leaf l, leaf m => l.same m
  | _, _ => false

def sameAll : List Condition → List Condition → Bool
  | [], [] => true
  | c :: cs, d :: ds => c.same d && sameAll cs ds
  | _, _ => false

end

@[simp] theorem toSpecs_eq_map (cs : List Condition) : toSpecs cs = cs.map toSpec := by
  induction cs with
  | nil => rfl
  | cons c cs ih => simp [toSpecs, ih]

@[simp] theorem describeAll_eq_map (cs : List Condition) : describeAll cs = cs.map describe := by
  induction cs with
  | nil => rfl
  | cons c cs ih => simp [describeAll, ih]

end Condition

end ReceiptRules
