import ReceiptRules.Decimal.Layout

/-!
# JSON values

A JSON value with exact integers of up to 64 bits, signed or unsigned, and finite doubles for all other
numbers. The entries of an object form a list. Objects that are read from a text are put in canonical
form, in which the keys ascend and each key has one entry; `Json.Canonical` says so.
-/

namespace ReceiptRules

/-- Whole numbers of 64 bits, signed or unsigned. -/
def FitsInteger (n : Int) : Prop := -0x8000_0000_0000_0000 ≤ n ∧ n < 0x1_0000_0000_0000_0000

instance (n : Int) : Decidable (FitsInteger n) := inferInstanceAs (Decidable (_ ∧ _))

/-- A JSON number. -/
inductive Number where
  /-- A whole number that fits 64 bits, signed or unsigned. -/
  | integer (n : Int) (fits : FitsInteger n)
  /-- A finite double. -/
  | float (x : Float) (finite : x.isFinite = true)

namespace Number

/-- The nearest double. -/
def toFloat : Number → Float
  | integer n _ => Float.ofInt n
  | float x _ => x

/-- The number as an integer of 64 bits with a sign, if it is given as one. -/
def signed? : Number → Option Int
  | integer n _ => if n < 0x8000_0000_0000_0000 then some n else none
  | float .. => none

/-- The number as it is written. -/
def text : Number → String
  | integer n _ => toString n
  | float x _ => Decimal.jsonText x

end Number

/-- A JSON value. -/
inductive Json where
  | null
  | bool (b : Bool)
  | number (n : Number)
  | string (s : String)
  | array (items : List Json)
  | object (entries : List (String × Json))

namespace Json

/-- A double as a JSON value; JSON has no word for infinities and for results that are no numbers. -/
def ofFloat (x : Float) : Json :=
  if h : x.isFinite = true then number (.float x h) else null

/-- An integer as a JSON value; as a double if it has more than 64 bits. -/
def ofInt (n : Int) : Json :=
  if h : FitsInteger n then number (.integer n h) else ofFloat (Float.ofInt n)

/-- The name of a value's type, as messages give it. -/
def typeName : Json → String
  | null => "null"
  | bool _ => "boolean"
  | number _ => "number"
  | string _ => "string"
  | array _ => "array"
  | object _ => "object"

/-- Puts an entry into a list of entries with ascending keys, in the place of one with the same key. -/
def insertEntry (key : String) (value : Json) : List (String × Json) → List (String × Json)
  | [] => [(key, value)]
  | (k, v) :: rest =>
    if key < k then (key, value) :: (k, v) :: rest
    else if key = k then (key, value) :: rest
    else (k, v) :: insertEntry key value rest

/-- The object with the given entries; of several with one key the last counts. -/
def ofEntries (entries : List (String × Json)) : Json :=
  object (entries.foldl (fun acc (key, value) => insertEntry key value acc) [])

/-- The value under a key of an object. -/
def get? (key : String) : Json → Option Json
  | object entries => entries.lookup key
  | _ => none

/-- The text of a string value. -/
def string? : Json → Option String
  | string s => some s
  | _ => none

/-- Ascending keys, each once. -/
def KeysAscend (entries : List (String × Json)) : Prop :=
  (entries.map Prod.fst).Pairwise (· < ·)

mutual

/-- Every object in the value has ascending keys, each once. -/
def Canonical : Json → Prop
  | array items => CanonicalItems items
  | object entries => KeysAscend entries ∧ CanonicalEntries entries
  | _ => True

def CanonicalItems : List Json → Prop
  | [] => True
  | item :: items => Canonical item ∧ CanonicalItems items

def CanonicalEntries : List (String × Json) → Prop
  | [] => True
  | (_, value) :: entries => Canonical value ∧ CanonicalEntries entries

end

end Json

end ReceiptRules
