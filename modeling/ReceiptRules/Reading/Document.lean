import ReceiptRules.Json5.Value
import ReceiptRules.Reading.Error

/-!
# Documents

What receipts and rules are read from: JSON values, and trees of JSON5 texts. Both show the same view of
themselves, so that each type has one reader; they differ in details that errors show, and in how strict
they are with lists and numbers.
-/

namespace ReceiptRules

/-- What a document is at its top. The keys of a JSON5 text may have no value. -/
inductive View (ν : Type) where
  | null
  | bool (b : Bool)
  | integer (n : Int)
  | float (x : Float)
  | string (s : String)
  | array (items : List ν)
  | object (entries : List (Except Json5.Error String × ν))

/-- A kind of document. -/
class Document (ν : Type) where
  isNull : ν → Bool
  view : ν → Except Json5.Error (View ν)
  /-- The value of a number as a double; none for anything else. -/
  float? : ν → Except Json5.Error (Option Float)
  toJson : ν → Except Json5.Error Json
  /-- The name of a null in errors. -/
  nullName : String
  /-- The form of a double in errors. -/
  floatText : Float → String
  /-- Whether a record may be given as a list with more elements than it has fields. -/
  surplusAllowed : Bool

namespace Document

/-! ## JSON values -/

def viewOfJson : Json → View Json
  | .null => .null
  | .bool b => .bool b
  | .number (.integer n _) => .integer n
  | .number (.float x _) => .float x
  | .string s => .string s
  | .array items => .array items
  | .object entries => .object (entries.map fun (key, value) => (.ok key, value))

instance : Document Json where
  isNull j := match j with
    | .null => true
    | _ => false
  view j := .ok (viewOfJson j)
  float? j := match j with
    | .number n => .ok (some n.toFloat)
    | _ => .ok none
  toJson := .ok
  nullName := "null"
  floatText := Decimal.jsonText
  surplusAllowed := false

/-! ## JSON5 texts -/

/-- A number counts as an integer by the way it is written. -/
def viewOfNumber (text : List Char) : Except Json5.Error (View Json5.Node) :=
  if Json5.isInteger text then (Json5.integerValue text).map .integer
  else (Json5.floatValue text).map .float

def viewOfNode : Json5.Node → Except Json5.Error (View Json5.Node)
  | .null => .ok .null
  | .bool b => .ok (.bool b)
  | .number text => viewOfNumber text
  | .string components => (Json5.decodeString components).map .string
  | .array items => .ok (.array items)
  | .object entries => .ok (.object (entries.map fun (key, value) => (Json5.decodeString key, value)))

/-- The shown form of a double, with a point. -/
def pointedText (x : Float) : String :=
  let text := Decimal.display x
  if x.isFinite && !text.toList.contains '.' then text ++ ".0" else text

instance : Document Json5.Node where
  isNull n := match n with
    | .null => true
    | _ => false
  view := viewOfNode
  float? n := match n with
    | .number text => (Json5.floatValue text).map some
    | _ => .error .malformedNumber
  toJson := Json5.Node.toJson
  nullName := "unit value"
  floatText := pointedText
  surplusAllowed := true

/-! ## Reading simple values -/

variable {ν : Type} [Document ν] {α : Type}

/-- The description of a value for an error. -/
def found : View ν → Found
  | .null => .nothing (nullName ν)
  | .bool b => .bool b
  | .integer n => .integer n
  | .float x => .float (floatText ν x)
  | .string s => .string s
  | .array _ => .array
  | .object _ => .object

/-- The view of a document, or the fault of the literal that it is. -/
def look (v : ν) : Except ReadError (View ν) := (view v).mapError .unreadable

/-- A value of another type than expected. -/
def mismatch (expected : String) (w : View ν) : Except ReadError α :=
  .error (.wrongType (found w) expected)

def readString (v : ν) : Except ReadError String := do
  match ← look v with
  | .string s => return s
  | w => mismatch "a string" w

def readBool (v : ν) : Except ReadError Bool := do
  match ← look v with
  | .bool b => return b
  | w => mismatch "a boolean" w

def readFloat (v : ν) : Except ReadError Float := do
  match ← (float? v).mapError ReadError.unreadable with
  | some x => return x
  | none => mismatch "f64" (← look v)

/-- Reads a value that may be null. -/
def readOptional (read : ν → Except ReadError α) (v : ν) : Except ReadError (Option α) :=
  if isNull v then .ok none else (read v).map some

/-- Reads a list, element by element. -/
def readList (read : ν → Except ReadError α) (v : ν) : Except ReadError (List α) := do
  match ← look v with
  | .array items => items.mapM read
  | w => mismatch "a sequence" w

/-- The JSON value of a document. -/
def readJson (v : ν) : Except ReadError Json := (toJson v).mapError .unreadable

end Document

end ReceiptRules
