import ReceiptRules.Json.Basic
import ReceiptRules.Text.Quoted

/-!
# Written JSON

A JSON value as text, on one line without blanks or on indented lines. Both texts come from one
function, which differs only in the blanks it puts between the marks.
-/

namespace ReceiptRules.Json

/-- The four digits of a control character's code. -/
def fourHexDigits (n : Nat) : List Char :=
  let digits := Text.hexDigits n
  List.replicate (4 - digits.length) '0' ++ digits

/-- A character inside a JSON string. Quotes, backslashes and control characters are escaped. -/
def escapedChar (c : Char) : List Char :=
  match c with
  | '"' => ['\\', '"']
  | '\\' => ['\\', '\\']
  | '\x08' => ['\\', 'b']
  | '\x0c' => ['\\', 'f']
  | '\n' => ['\\', 'n']
  | '\r' => ['\\', 'r']
  | '\t' => ['\\', 't']
  | c => if c.toNat < 0x20 then '\\' :: 'u' :: fourHexDigits c.toNat else [c]

/-- A JSON string. -/
def quotedString (s : String) : List Char :=
  '"' :: s.toList.flatMap escapedChar ++ ['"']

/-- The end of a line at a depth of nesting; nothing in a text on one line. -/
def lineBreak : Option Nat → List Char
  | none => []
  | some depth => '\n' :: List.replicate (2 * depth) ' '

/-- The mark between a key and its value. -/
def colon : Option Nat → List Char
  | none => [':']
  | some _ => [':', ' ']

mutual

/-- Writes a value at a depth of nesting, or on one line if there is none. -/
def write (depth : Option Nat) : Json → List Char
  | null => ['n', 'u', 'l', 'l']
  | bool true => ['t', 'r', 'u', 'e']
  | bool false => ['f', 'a', 'l', 's', 'e']
  | number n => n.text.toList
  | string s => quotedString s
  | array [] => ['[', ']']
  | array (item :: items) =>
    let inner := depth.map (· + 1)
    '[' :: lineBreak inner ++ write inner item ++ writeItems inner items ++ lineBreak depth ++ [']']
  | object [] => ['\x7b', '\x7d']
  | object ((key, value) :: entries) =>
    let inner := depth.map (· + 1)
    '\x7b' :: lineBreak inner ++ quotedString key ++ colon depth ++ write inner value ++
      writeEntries inner entries ++ lineBreak depth ++ ['\x7d']

/-- Writes the further items of an array, each after a comma. -/
def writeItems (depth : Option Nat) : List Json → List Char
  | [] => []
  | item :: items => ',' :: lineBreak depth ++ write depth item ++ writeItems depth items

/-- Writes the further entries of an object, each after a comma. -/
def writeEntries (depth : Option Nat) : List (String × Json) → List Char
  | [] => []
  | (key, value) :: entries =>
    ',' :: lineBreak depth ++ quotedString key ++ colon depth ++ write depth value ++
      writeEntries depth entries

end

/-- The text of a value on one line. -/
def compact (j : Json) : String := String.ofList (j.write none)

/-- The text of a value on indented lines. -/
def pretty (j : Json) : String := String.ofList (j.write (some 0))

end ReceiptRules.Json
