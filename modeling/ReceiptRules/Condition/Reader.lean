import ReceiptRules.Condition.SpecError
import ReceiptRules.Json5.Value

/-!
# Reading specs

`Condition.ofSpec` reads a condition from a JSON value: an object with exactly one entry, whose key says
what to expect under it. `Condition.ofText` reads one from JSON5 text. A spec gives a whole condition or
the first fault in it.
-/

namespace ReceiptRules

namespace Leaf

/-- The elements of an argument that is a list of a given shape. -/
def elements (shape : List String) (argument : Json) : Except ArgumentFault (List Json) :=
  match argument with
  | .array items =>
    if items.length = shape.length then .ok items else .error (.wrongLength shape items.length)
  | j => .error (.notList shape j.typeName)

/-- The text of a string; `what` names the value in the error. -/
def stringOf (what : String) : Json → Except ArgumentFault String
  | .string s => .ok s
  | j => .error (.notString what j.typeName)

def operatorOf (j : Json) : Except ArgumentFault Operator := do
  let text ← stringOf "operator" j
  match Operator.ofName? text with
  | some op => .ok op
  | none => .error (.unknownOperator text)

def thresholdOf : Json → Except ArgumentFault Float
  | .number n => .ok n.toFloat
  | j => .error (.notThreshold j.typeName)

def componentOf (j : Json) : Except ArgumentFault DateComponent := do
  let text ← stringOf "component" j
  match DateComponent.ofName? text with
  | some c => .ok c
  | none => .error (.unknownComponent text)

/-- The value of a number in a date condition, which must be whole and have at most 32 bits. A number that
is not given as an integer of 64 bits with a sign is taken as a double. -/
def wholeOf? (n : Number) : Option Int :=
  (n.signed?.or (Binary.ofFloat n.toFloat).toSigned?).filter fun i =>
    -0x8000_0000 ≤ i ∧ i < 0x8000_0000

/-- The value of a date condition: a number, or the name of a weekday or a month, which must be in the
range of the component. -/
def dateValueOf (c : DateComponent) (j : Json) : Except ArgumentFault Int := do
  let value ← match j with
    | .number n =>
      match wholeOf? n with
      | some i => .ok i
      | none => .error (.notWhole n)
    | .string s =>
      match c.valueOfName? s with
      | some i => .ok i
      | none => .error (.unknownName s c)
    | j => .error (.notDateValue j.typeName)
  match c.range? with
  | some (least, greatest) =>
    if value < least ∨ greatest < value then .error (.outOfRange c least greatest) else .ok value
  | none => .ok value

def relationOf (j : Json) : Except ArgumentFault Relation := do
  let text ← stringOf "relation" j
  match Relation.ofName? text with
  | some r => .ok r
  | none => .error (.unknownRelation text)

def patternOf (j : Json) : Except ArgumentFault HeaderPattern := do
  let text ← stringOf "header key" j
  match HeaderPattern.ofKey text with
  | .ok p => .ok p
  | .error e => .error (.badPattern e)

def expectationOf : Json → Except ArgumentFault Expectation
  | .bool b => .ok (.present b)
  | .string s => .ok (.value s)
  | j => .error (.notExpectation j.typeName)

/-- Turns a fault of an argument into a fault of the spec. -/
def check {α : Type} (key : LeafKey) (r : Except ArgumentFault α) : Except SpecFault α :=
  r.mapError (.badArgument key)

/-- Reads the argument of a leaf. -/
def ofArgument (key : LeafKey) (argument : Json) : Except SpecFault Leaf :=
  match key with
  | .amount => check key do
    match ← elements ["operator", "number"] argument with
    | [op, threshold] => return amount (← operatorOf op) (← thresholdOf threshold)
    | items => .error (.wrongLength ["operator", "number"] items.length)
  | .currency => check key do return currency (← stringOf "currency" argument)
  | .date => check key do
    match ← elements ["component", "operator", "value"] argument with
    | [component, op, value] =>
      let component ← componentOf component
      let op ← operatorOf op
      return date component op (← dateValueOf component value)
    | items => .error (.wrongLength ["component", "operator", "value"] items.length)
  | .time => do
    let (relation, text) ← check key do
      match ← elements ["relation", "time"] argument with
      | [relation, text] =>
        let relation ← relationOf relation
        return (relation, ← stringOf "time" text)
      | items => .error (.wrongLength ["relation", "time"] items.length)
    match TimeOfDay.ofText? text with
    | some t => .ok (time t relation)
    | none => .error (.badTime text)
  | .header => check key do
    match ← elements ["key", "expected"] argument with
    | [pattern, expected] => return header (← patternOf pattern) (← expectationOf expected)
    | items => .error (.wrongLength ["key", "expected"] items.length)
  | .paymentMethod => check key do return paymentMethod (← stringOf "payment method" argument)
  | .placeType => check key do return placeType (← stringOf "place type" argument)
  | .placeTypeCategory => check key do
    return placeTypeCategory (← stringOf "place type category" argument)

end Leaf

namespace Condition

mutual

/-- Reads a spec. -/
def ofSpec : Json → Except SpecError Condition
  | .object [] => .error ⟨.empty, []⟩
  | .object [(name, value)] =>
    match Key.ofName? name with
    | none => .error ⟨.unknownKey name (Key.suggest? name), []⟩
    | some (.combinator op) =>
      match value with
      | .array items => (ofSpecs op 0 items).map (combination op)
      | _ => .error ⟨.notConditions op, [.key (.combinator op)]⟩
    | some .not => ((ofSpec value).map not).mapError (SpecError.within (.key .not))
    | some (.leaf k) =>
      ((Leaf.ofArgument k value).map leaf).mapError fun fault => ⟨fault, [.key (.leaf k)]⟩
  | .object entries => .error ⟨.severalKeys (entries.map Prod.fst), []⟩
  | .null => .error ⟨.empty, []⟩
  | j => .error ⟨.notObject j.typeName, []⟩
termination_by structural j => j

/-- Reads the specs in a list, of which the first has the given index. -/
def ofSpecs (op : Combinator) (index : Nat) : List Json → Except SpecError (List Condition)
  | [] => .ok []
  | item :: items => do
    let c ← (ofSpec item).mapError (SpecError.within (.item op index))
    let cs ← ofSpecs op (index + 1) items
    return c :: cs
termination_by structural items => items

end

/-- Reads a spec that may be missing. -/
def ofSpec? : Option Json → Except SpecError Condition
  | some j => ofSpec j
  | none => .error ⟨.empty, []⟩

/-- Reads a spec from JSON5 text; text of blanks only is an empty spec. -/
def ofText (text : String) : Except SpecError Condition :=
  if text.toList.all Text.isBlank then .error ⟨.empty, []⟩
  else
    match Json5.valueOfText text with
    | .ok j => ofSpec j
    | .error e => .error ⟨.unreadable e, []⟩

end Condition

end ReceiptRules
