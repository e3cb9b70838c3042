import ReceiptRules.Json5.Literal

/-!
# Reading JSON

A reader for texts in strict JSON, such as the programs have that read the output: no comments, no names
without quotes, no commas at the end, and only four kinds of blanks. Numbers are kept by their digits, and
the entries of an object in the order in which they stand, so that a key that is there twice can be seen.
-/

namespace ReceiptRules.Json

open Json5

/-- A JSON value as it is written: numbers by their digits, and all entries of objects. -/
inductive Written where
  | null
  | bool (b : Bool)
  | number (text : String)
  | string (s : String)
  | array (items : List Written)
  | object (entries : List (String × Written))

namespace Written

/-! ## Blanks, strings and numbers -/

/-- The characters that may stand between the parts of a text. -/
def isBlank (c : Char) : Bool := c == ' ' || c == '\t' || c == '\n' || c == '\r'

def skipBlanks (cs : List Char) : List Char := cs.dropWhile isBlank

/-- The letters that stand for a character behind a backslash. -/
def isEscapable (c : Char) : Bool := ['"', '\\', '/', 'b', 'f', 'n', 'r', 't'].contains c

/-- Reads a string behind its opening quote. Control characters must be escaped. -/
def readComponents? : List Char → Option (List Component × List Char)
  | '"' :: rest => some ([], rest)
  | '\\' :: 'u' :: a :: b :: c :: d :: rest =>
    if [a, b, c, d].all Text.Property.isAsciiHexDigit then
      (readComponents? rest).map fun (cs, rest) => (.unicode [a, b, c, d] :: cs, rest)
    else none
  | '\\' :: e :: rest =>
    if isEscapable e then (readComponents? rest).map fun (cs, rest) => (.escape e :: cs, rest)
    else none
  | c :: rest =>
    if c.toNat < 0x20 || c = '\\' then none
    else (readComponents? rest).map fun (cs, rest) => (.literal c :: cs, rest)
  | [] => none

/-- Reads a string behind its opening quote; a half of a surrogate pair makes none. -/
def readString? (cs : List Char) : Option (String × List Char) := do
  let (components, rest) ← readComponents? cs
  let s ← (decodeString components).toOption
  return (s, rest)

/-- Drops digits, at least one. -/
def dropDigits? : List Char → Option (List Char)
  | c :: rest => if c.isDigit then some (rest.dropWhile Char.isDigit) else none
  | [] => none

/-- Drops the digits before a point, of which the first is a zero only if it is alone. -/
def dropWhole? : List Char → Option (List Char)
  | '0' :: rest => some rest
  | cs => dropDigits? cs

/-- Drops a point and the digits behind it, if there is a point. -/
def dropFraction? : List Char → Option (List Char)
  | '.' :: rest => dropDigits? rest
  | cs => some cs

/-- Drops an exponent, if there is one. -/
def dropExponent? : List Char → Option (List Char)
  | c :: rest =>
    if c = 'e' || c = 'E' then
      match rest with
      | '+' :: rest => dropDigits? rest
      | '-' :: rest => dropDigits? rest
      | rest => dropDigits? rest
    else some (c :: rest)
  | [] => some []

/-- Drops a number without a sign. -/
def dropUnsigned? (cs : List Char) : Option (List Char) := do
  dropExponent? (← dropFraction? (← dropWhole? cs))

def dropNumber? : List Char → Option (List Char)
  | '-' :: rest => dropUnsigned? rest
  | cs => dropUnsigned? cs

/-- Reads a number and keeps its text. -/
def readNumber? (cs : List Char) : Option (String × List Char) :=
  (dropNumber? cs).map fun rest => (String.ofList (cs.take (cs.length - rest.length)), rest)

/-! ## Values -/

mutual

/-- Reads a value. The fuel bounds how often the reader calls itself; the length of the text is more than
enough. -/
def readValue? : (fuel : Nat) → List Char → Option (Written × List Char)
  | 0, _ => none
  | fuel + 1, cs =>
    match skipBlanks cs with
    | 'n' :: 'u' :: 'l' :: 'l' :: rest => some (.null, rest)
    | 't' :: 'r' :: 'u' :: 'e' :: rest => some (.bool true, rest)
    | 'f' :: 'a' :: 'l' :: 's' :: 'e' :: rest => some (.bool false, rest)
    | '"' :: rest => (readString? rest).map fun (s, rest) => (.string s, rest)
    | '[' :: rest =>
      match skipBlanks rest with
      | ']' :: rest => some (.array [], rest)
      | rest => (readItems? fuel rest).map fun (items, rest) => (.array items, rest)
    | '\x7b' :: rest =>
      match skipBlanks rest with
      | '\x7d' :: rest => some (.object [], rest)
      | rest => (readEntries? fuel rest).map fun (entries, rest) => (.object entries, rest)
    | cs => (readNumber? cs).map fun (text, rest) => (.number text, rest)

/-- Reads the items of an array, at least one, and the closing bracket. -/
def readItems? : (fuel : Nat) → List Char → Option (List Written × List Char)
  | 0, _ => none
  | fuel + 1, cs => do
    let (item, rest) ← readValue? fuel cs
    match skipBlanks rest with
    | ',' :: rest =>
      let (items, rest) ← readItems? fuel rest
      return (item :: items, rest)
    | ']' :: rest => return ([item], rest)
    | _ => none

/-- Reads the entries of an object, at least one, and the closing brace. -/
def readEntries? : (fuel : Nat) → List Char → Option (List (String × Written) × List Char)
  | 0, _ => none
  | fuel + 1, cs => do
    let '"' :: rest := skipBlanks cs | none
    let (key, rest) ← readString? rest
    let ':' :: rest := skipBlanks rest | none
    let (value, rest) ← readValue? fuel rest
    match skipBlanks rest with
    | ',' :: rest =>
      let (entries, rest) ← readEntries? fuel rest
      return ((key, value) :: entries, rest)
    | '\x7d' :: rest => return ([(key, value)], rest)
    | _ => none

end

/-- Reads a JSON text. -/
def ofText? (text : String) : Option Written := do
  let (value, rest) ← readValue? (text.toList.length + 1) text.toList
  if rest.all isBlank then some value else none

end Written

end ReceiptRules.Json
