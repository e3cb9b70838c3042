import ReceiptRules.Json.Basic
import ReceiptRules.Json5.Literal

/-!
# The value of a JSON5 text

The JSON value that a tree stands for. Entries are read in their order, so of several faulty literals
the first is reported; of several entries with one key the last counts. Infinities and results that are
no numbers become `null`.
-/

namespace ReceiptRules.Json5

/-- The JSON value of a written number. -/
def numberValue (text : List Char) : Except Error Json :=
  if isInteger text then (integerValue text).map Json.ofInt
  else (floatValue text).map Json.ofFloat

namespace Node

mutual

/-- The JSON value of a tree. -/
def toJson : Node → Except Error Json
  | null => .ok .null
  | bool b => .ok (.bool b)
  | number text => numberValue text
  | string components => (decodeString components).map .string
  | array items => (itemsToJson items).map .array
  | object entries => (entriesToJson entries).map Json.ofEntries

def itemsToJson : List Node → Except Error (List Json)
  | [] => .ok []
  | item :: items => do
    let item ← item.toJson
    let items ← itemsToJson items
    return item :: items

def entriesToJson : List (List Component × Node) → Except Error (List (String × Json))
  | [] => .ok []
  | (key, value) :: entries => do
    let key ← decodeString key
    let value ← value.toJson
    let entries ← entriesToJson entries
    return (key, value) :: entries

end

end Node

/-- The JSON value of a JSON5 text. -/
def valueOfText (text : String) : Except Error Json :=
  match Node.ofText? text with
  | some node => node.toJson
  | none => .error .malformedText

end ReceiptRules.Json5
