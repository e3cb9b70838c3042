import ReceiptRules.Decimal.Basic
import ReceiptRules.Json5.Node

/-!
# What JSON5 literals stand for

Strings and numbers are written in more ways than they can be used: a string may hold half of a
surrogate pair, and a number may be too large. Such literals are part of a valid text and are refused
only when their value is asked for.
-/

namespace ReceiptRules.Json5

/-- Why a text has no value. -/
inductive Error where
  /-- The text is not JSON5. -/
  | malformedText
  /-- A whole number has more than 63 bits, or a sign before hexadecimal digits. -/
  | malformedInteger
  /-- A number cannot be read as a double. -/
  | malformedNumber
  | numberTooLarge
  /-- A hexadecimal number has more than 32 bits, or half of a surrogate pair is followed by something
  else than hexadecimal digits. -/
  | malformedHexadecimal
  | unexpectedTrailSurrogate
  | missingTrailSurrogate
  | expectedTrailSurrogate
  deriving Repr, DecidableEq

/-- The text of an error. A malformed text is reported without one. -/
def Error.message : Error → String
  | malformedText => ""
  | malformedInteger => "error parsing integer"
  | malformedNumber => "error parsing number"
  | numberTooLarge => "error parsing number: too large"
  | malformedHexadecimal => "error parsing hex"
  | unexpectedTrailSurrogate => "unexpected unicode trail surrogate"
  | missingTrailSurrogate => "missing unicode trail surrogate"
  | expectedTrailSurrogate => "expecting unicode trail surrogate"

/-! ## Digits -/

/-- Integers of 64 bits with a sign. -/
def IsInteger64 (n : Int) : Prop := -0x8000_0000_0000_0000 ≤ n ∧ n < 0x8000_0000_0000_0000

instance (n : Int) : Decidable (IsInteger64 n) := inferInstanceAs (Decidable (_ ∧ _))

/-- The value of a hexadecimal digit. -/
def hexDigitValue? (c : Char) : Option Nat :=
  if c.isDigit then some (c.toNat - '0'.toNat)
  else if 'a' ≤ c && c ≤ 'f' then some (c.toNat - 'a'.toNat + 10)
  else if 'A' ≤ c && c ≤ 'F' then some (c.toNat - 'A'.toNat + 10)
  else none

/-- The value of hexadecimal digits, at least one and up to 32 bits. -/
def hexValue? (digits : List Char) : Option Nat :=
  let value := digits.foldl (fun acc c => do return 16 * (← acc) + (← hexDigitValue? c)) (some 0)
  if digits.isEmpty then none else value.filter (· < 0x1_0000_0000)

/-- The value of decimal digits, at least one. -/
def decimalValue? (digits : List Char) : Option Nat :=
  if digits.isEmpty || !digits.all Char.isDigit then none
  else some (digits.foldl (fun n c => 10 * n + (c.toNat - '0'.toNat)) 0)

/-! ## Strings -/

/-- The characters that a component is written with, after the backslash and the letter of an escape. -/
def Component.written : Component → List Char
  | literal c => [c]
  | escape c => [c]
  | nul => ['0']
  | hex digits => digits
  | unicode digits => digits

/-- The character that a backslash before a character stands for. -/
def escapedValue : Char → Char
  | 'b' => '\x08'
  | 'f' => '\x0c'
  | 'n' => '\n'
  | 'r' => '\r'
  | 't' => '\t'
  | 'v' => '\x0b'
  | c => c

/-- The hexadecimal value of what a component is written with. -/
def Component.hexValue (c : Component) : Except Error Nat :=
  match hexValue? c.written with
  | some n => .ok n
  | none => .error .malformedHexadecimal

def isTrailSurrogate (n : Nat) : Bool := 0xDC00 ≤ n && n ≤ 0xDFFF

def isLeadSurrogate (n : Nat) : Bool := 0xD800 ≤ n && n ≤ 0xDBFF

/-- The character of a surrogate pair. -/
def pairedChar (lead trail : Nat) : Char :=
  Char.ofNat ((lead - 0xD800) * 0x400 + (trail - 0xDC00) + 0x10000)

/-- The text that a list of components stands for. -/
def decode : List Component → Except Error (List Char)
  | [] => .ok []
  | .literal c :: rest => (decode rest).map (c :: ·)
  | .escape c :: rest => (decode rest).map (escapedValue c :: ·)
  | .nul :: rest => (decode rest).map ('\x00' :: ·)
  | .hex digits :: rest => do
    let n ← (Component.hex digits).hexValue
    (decode rest).map (Char.ofNat n :: ·)
  | .unicode digits :: rest => do
    let n ← (Component.unicode digits).hexValue
    if isTrailSurrogate n then .error .unexpectedTrailSurrogate
    else if isLeadSurrogate n then
      match rest with
      | [] => .error .missingTrailSurrogate
      | second :: rest => do
        let trail ← second.hexValue
        if isTrailSurrogate trail then (decode rest).map (pairedChar n trail :: ·)
        else .error .expectedTrailSurrogate
    else (decode rest).map (Char.ofNat n :: ·)

/-- The text of a string or a key. -/
def decodeString (components : List Component) : Except Error String :=
  (decode components).map String.ofList

/-! ## Numbers -/

/-- A sign at the start of a number, and the rest. -/
def splitSign : List Char → Bool × List Char
  | '-' :: rest => (true, rest)
  | '+' :: rest => (false, rest)
  | text => (false, text)

/-- The digits of a hexadecimal number without a sign. -/
def hexDigits? : List Char → Option (List Char)
  | '0' :: 'x' :: c :: rest => some (c :: rest)
  | '0' :: 'X' :: c :: rest => some (c :: rest)
  | _ => none

/-- The value of a number written with one of the words for infinity and for no number. The word for
infinity has a value only without a sign or with a minus, and so has the other. -/
def wordValue? (text : List Char) : Option Float :=
  let infinity := Float.ofBits 0x7FF0000000000000
  let nan := Float.ofBits 0x7FF8000000000000
  if text = infinityWord then some infinity
  else if text = '-' :: infinityWord then some (-infinity)
  else if text = nanWord || text = '-' :: nanWord then some nan
  else none

/-- Whether a number counts as an integer: it has no point, and no exponent unless it is
hexadecimal. -/
def isInteger (text : List Char) : Bool :=
  !text.contains '.' && ((hexDigits? text).isSome || !(text.contains 'e' || text.contains 'E')) &&
    (wordValue? text).isNone

/-- The value of a number that counts as an integer. -/
def integerValue (text : List Char) : Except Error Int :=
  match hexDigits? text with
  | some digits =>
    match hexValue? digits with
    | some n => .ok n
    | none => .error .malformedHexadecimal
  | none =>
    let (negative, digits) := splitSign text
    match decimalValue? digits with
    | some n =>
      let value : Int := if negative then -(n : Int) else n
      if IsInteger64 value then .ok value else .error .malformedInteger
    | none => .error .malformedInteger

/-- The decimal that a number without a sign stands for: digits, a point and more digits, and an
exponent, of which not all need be there. -/
def readDecimalValue? (negative : Bool) (text : List Char) : Option Decimal := do
  let isMark := fun c => c == 'e' || c == 'E'
  let digits := text.takeWhile fun c => !isMark c
  let whole := digits.takeWhile (· != '.')
  let fraction := (digits.dropWhile (· != '.')).drop 1
  let mantissa ← decimalValue? (whole ++ fraction)
  let exponent : Int ← match text.dropWhile fun c => !isMark c with
    | [] => some 0
    | _ :: rest =>
      let (below, digits) := splitSign rest
      (decimalValue? digits).map fun n => if below then -(n : Int) else n
  return ⟨negative, mantissa, exponent - fraction.length⟩

/-- The value of a number as a double. Words for infinity with other signs, too, are read, but as too
large; a number of this size is refused in any spelling. -/
def floatValue (text : List Char) : Except Error Float :=
  match wordValue? text with
  | some x => .ok x
  | none =>
    match hexDigits? text with
    | some digits =>
      match hexValue? digits with
      | some n => .ok (Float.ofNat n)
      | none => .error .malformedHexadecimal
    | none =>
      let (negative, digits) := splitSign text
      if digits = infinityWord || digits = nanWord then .error .numberTooLarge
      else
        match readDecimalValue? negative digits with
        | some d => if d.toFloat.isFinite then .ok d.toFloat else .error .numberTooLarge
        | none => .error .malformedNumber

end ReceiptRules.Json5
