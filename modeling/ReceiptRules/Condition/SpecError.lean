import ReceiptRules.Condition.Basic
import ReceiptRules.Json5.Literal
import ReceiptRules.Text.EditDistance

/-!
# Faults of specs

Why a spec is no condition, and where in the spec the fault is. The place is a list of steps from the
root; the text of an error starts with the place, unless it is the root.
-/

namespace ReceiptRules

/-- A step from a spec to a part of it. -/
inductive Step where
  /-- To what is under a key. -/
  | key (k : Key)
  /-- To one of the conditions in the list under a key. -/
  | item (op : Combinator) (index : Nat)
  deriving Repr, DecidableEq

def Step.text : Step → String
  | key k => k.name
  | item op index => op.name ++ "[" ++ toString index ++ "]"

/-- The text of a place: its steps with points between them. -/
def placeText (place : List Step) : String := ".".intercalate (place.map Step.text)

/-- What is wrong with the argument of a leaf. -/
inductive ArgumentFault where
  /-- There is no list of arguments of the given shape, but a value of some type. -/
  | notList (shape : List String) (found : String)
  /-- The list has another number of elements than its shape. -/
  | wrongLength (shape : List String) (length : Nat)
  | notString (what found : String)
  | unknownOperator (text : String)
  | notThreshold (found : String)
  | unknownComponent (text : String)
  | notWhole (n : Number)
  | unknownName (text : String) (component : DateComponent)
  | notDateValue (found : String)
  | outOfRange (component : DateComponent) (least greatest : Int)
  | unknownRelation (text : String)
  | badPattern (e : PatternError)
  | notExpectation (found : String)

namespace ArgumentFault

def shapeText (shape : List String) : String := "[" ++ ", ".intercalate shape ++ "]"

def message : ArgumentFault → String
  | notList shape found => "expected " ++ shapeText shape ++ ", got " ++ found
  | wrongLength shape length =>
    "expected " ++ shapeText shape ++ ", got " ++ toString length ++ " element(s)"
  | notString what found => what ++ " must be a string, got " ++ found
  | unknownOperator text => "unknown operator '" ++ text ++ "'"
  | notThreshold found => "threshold must be a number, got " ++ found
  | unknownComponent text => "unknown date component '" ++ text ++ "'"
  | notWhole n => n.text ++ " must be a whole number"
  | unknownName text component => "'" ++ text ++ "' is not a valid " ++ component.name ++ " value"
  | notDateValue found => "value must be a number, got " ++ found
  | outOfRange component least greatest =>
    component.name ++ " must be between " ++ toString least ++ " and " ++ toString greatest
  | unknownRelation text => "unknown relation '" ++ text ++ "': use before, after, or at"
  | badPattern e => e.message
  | notExpectation found => "expected value must be a boolean or string, got " ++ found

end ArgumentFault

/-- Why a spec is no condition. -/
inductive SpecFault where
  | empty
  | notObject (found : String)
  | severalKeys (keys : List String)
  | unknownKey (key : String) (suggestion : Option Key)
  | notConditions (op : Combinator)
  | badArgument (key : LeafKey) (fault : ArgumentFault)
  | badTime (text : String)
  /-- The text of the spec has no JSON value. -/
  | unreadable (e : Json5.Error)

namespace SpecFault

def message : SpecFault → String
  | empty => "empty condition spec"
  | notObject found => "expected a condition object, got " ++ found
  | severalKeys keys =>
    "condition object must have exactly one key, found " ++ ", ".intercalate keys
  | unknownKey key suggestion =>
    "unknown condition key '" ++ key ++ "'" ++
      match suggestion with
      | some k => " (did you mean '" ++ k.name ++ "'?)"
      | none => ""
  | notConditions op => "'" ++ op.name ++ "' must be an array of conditions"
  | badArgument key fault => "invalid arguments for '" ++ key.name ++ "': " ++ fault.message
  | badTime text => "invalid time '" ++ text ++ "': expected HH:MM or HH:MM:SS"
  | unreadable e => "invalid spec text: " ++ e.message

end SpecFault

/-- A fault and its place. -/
structure SpecError where
  fault : SpecFault
  place : List Step

namespace SpecError

/-- An error of a part as an error of the whole. -/
def within (step : Step) (e : SpecError) : SpecError := { e with place := step :: e.place }

def message (e : SpecError) : String :=
  (if e.place.isEmpty then "" else placeText e.place ++ ": ") ++ e.fault.message

end SpecError

/-! ## Suggestions -/

namespace Key

/-- The greatest edit distance at which a key is suggested. -/
def suggestionDistance : Nat := 3

/-- The edit distance of a text to a key, without regard to case. -/
def distanceTo (text : String) (k : Key) : Nat :=
  Text.distance (Text.lowercase text.toList) (Text.lowercase k.name.toList)

/-- The first of the keys with the least distance, together with the distance. -/
def nearest? (text : String) : List Key → Option (Key × Nat)
  | [] => none
  | k :: ks =>
    let d := distanceTo text k
    match nearest? text ks with
    | some (other, e) => if e < d then some (other, e) else some (k, d)
    | none => some (k, d)

/-- The key that an unknown key may be meant for: the first one in the list of keys of those with the
least edit distance, if that is small enough. -/
def suggest? (text : String) : Option Key :=
  ((nearest? text known).filter fun (_, d) => d ≤ suggestionDistance).map Prod.fst

end Key

end ReceiptRules
