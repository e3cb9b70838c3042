import ReceiptRules.Text.Property

/-!
# Quoted text

A text in double quotes, as error messages show it. What a reader could not see or could mistake is
written as an escape: the quote, the backslash, control and format characters, blanks other than the
space, and characters that would change the look of the one before.
-/

namespace ReceiptRules.Text

/-- Lower-case hexadecimal digits of a number. -/
def hexDigits (n : Nat) : List Char := Nat.toDigits 16 n

/-- Whether a character is shown as it is. -/
def isShown (c : Char) : Bool :=
  if c.toNat < 0x80 then 0x20 ≤ c.toNat && c.toNat < 0x7F
  else
    !Property.holds .graphemeExtend c &&
    match category c with
    | .control | .format | .surrogate | .privateUse | .unassigned | .spaceSeparator
    | .lineSeparator | .paragraphSeparator => false
    | _ => true

/-- The form of a character inside quotes. -/
def quotedChar (c : Char) : List Char :=
  match c with
  | '\x00' => ['\\', '0']
  | '\t' => ['\\', 't']
  | '\n' => ['\\', 'n']
  | '\r' => ['\\', 'r']
  | '"' => ['\\', '"']
  | '\\' => ['\\', '\\']
  | c => if isShown c then [c] else ['\\', 'u', '\x7b'] ++ hexDigits c.toNat ++ ['\x7d']

/-- A text in double quotes with escapes. -/
def quoted (s : String) : String :=
  String.ofList ('"' :: s.toList.flatMap quotedChar ++ ['"'])

end ReceiptRules.Text
