import ReceiptRules.Calendar.Timestamp
import ReceiptRules.Text.Blank

/-!
# Reading timestamps

A timestamp is read in two forms. The free form, `readLocal?`, has no offset from universal time,
allows blanks before its numbers and marks and at the end, single digits, and years of any length with a
sign. The strict form, `readZoned`, has fixed widths and must end in an offset. The offset is checked and
dropped: what counts is the clock on the wall. A text that is in neither form is refused with the reason
why it is not in the strict form.
-/

namespace ReceiptRules

/-- Why a text is no timestamp. -/
inductive TimestampError where
  | tooShort
  | invalid
  | outOfRange
  | tooLong
  deriving Repr, DecidableEq

namespace TimestampError

def message : TimestampError → String
  | tooShort => "premature end of input"
  | invalid => "input contains invalid characters"
  | outOfRange => "input is out of range"
  | tooLong => "trailing input"

end TimestampError

namespace Timestamp

/-- The value of a list of decimal digits. -/
def digitsValue (ds : List Char) : Nat :=
  ds.foldl (fun n d => 10 * n + (d.toNat - '0'.toNat)) 0

/-- The digits at the start of a text, at most `most` of them, and the rest. -/
def spanDigits : (most : Nat) → List Char → List Char × List Char
  | 0, cs => ([], cs)
  | _ + 1, [] => ([], [])
  | most + 1, c :: cs =>
    if c.isDigit then
      let (digits, rest) := spanDigits most cs
      (c :: digits, rest)
    else ([], c :: cs)

/-- The nanoseconds that the digits after a point stand for; digits after the ninth are dropped. -/
def fractionValue (ds : List Char) : Nat :=
  let kept := ds.take 9
  digitsValue (kept ++ List.replicate (9 - kept.length) '0')

/-- Reads a fraction of a second if there is one: a point and at least one digit. -/
def readFraction : List Char → Except TimestampError (Nat × List Char)
  | '.' :: cs =>
    let digits := cs.takeWhile Char.isDigit
    if digits.isEmpty then .error (if cs.isEmpty then .tooShort else .invalid)
    else .ok (fractionValue digits, cs.drop digits.length)
  | cs => .ok (0, cs)

/-! ## The free form -/

/-- Reads a number of one or two digits, after blanks. -/
def readShort? (cs : List Char) : Option (Nat × List Char) :=
  match spanDigits 2 (Text.trimStart Text.isBlank cs) with
  | ([], _) => none
  | (digits, rest) => some (digitsValue digits, rest)

/-- Reads a year, after blanks: up to four digits, or any number of digits after a sign. -/
def readYear? (cs : List Char) : Option (Int × List Char) :=
  match Text.trimStart Text.isBlank cs with
  | '-' :: cs =>
    let digits := cs.takeWhile Char.isDigit
    if digits.isEmpty then none else some (-(digitsValue digits : Int), cs.drop digits.length)
  | '+' :: cs =>
    let digits := cs.takeWhile Char.isDigit
    if digits.isEmpty then none else some (digitsValue digits, cs.drop digits.length)
  | cs =>
    match spanDigits 4 cs with
    | ([], _) => none
    | (digits, rest) => some (digitsValue digits, rest)

/-- Reads a mark, after blanks. -/
def readMark? (mark : Char) (cs : List Char) : Option (List Char) :=
  match Text.trimStart Text.isBlank cs with
  | c :: cs => if c = mark then some cs else none
  | [] => none

/-- Reads a timestamp without an offset. -/
def readLocal? (cs : List Char) : Option Timestamp := do
  let (year, cs) ← readYear? cs
  let cs ← readMark? '-' cs
  let (month, cs) ← readShort? cs
  let cs ← readMark? '-' cs
  let (day, cs) ← readShort? cs
  let cs ← readMark? 'T' cs
  let (hour, cs) ← readShort? cs
  let cs ← readMark? ':' cs
  let (minute, cs) ← readShort? cs
  let cs ← readMark? ':' cs
  let (second, cs) ← readShort? cs
  let (nanosecond, cs) ← (readFraction cs).toOption
  if cs.all Text.isBlank then
    let date ← Date.ofNumbers? year month day
    let time ← ClockTime.ofNumbers? hour minute second nanosecond
    return ⟨date, time⟩
  else none

/-! ## The strict form -/

/-- Reads exactly `count` digits. -/
def readDigits (count : Nat) (cs : List Char) : Except TimestampError (Nat × List Char) :=
  let (digits, rest) := spanDigits count cs
  if digits.length = count then .ok (digitsValue digits, rest) else .error .invalid

/-- Reads one of the given marks. -/
def readOneOf (marks : List Char) : List Char → Except TimestampError (List Char)
  | c :: cs => if marks.contains c then .ok cs else .error .invalid
  | [] => .error .invalid

/-- Two digits of an offset; unlike elsewhere a text of less than two bytes is told apart. -/
def readOffsetDigits : List Char → Except TimestampError (Nat × List Char)
  | a :: b :: cs =>
    if a.isDigit && b.isDigit then .ok (digitsValue [a, b], cs) else .error .invalid
  | [a] => .error (if a.utf8Size < 2 then .tooShort else .invalid)
  | [] => .error .tooShort

/-- Reads an offset to the end of the text: `Z`, or a sign, hours and minutes. An offset is less than a
day. -/
def readOffset : List Char → Except TimestampError Unit
  | [] => .error .tooShort
  | c :: cs =>
    if c = 'Z' || c = 'z' then if cs.isEmpty then .ok () else .error .tooLong
    else if c = '+' || c = '-' || c = '\u2212' then do
      let (hours, cs) ← readOffsetDigits cs
      let cs ← match cs with
        | [] => .error .tooShort
        | mark :: cs => if mark = ':' then .ok cs else .error .invalid
      let (minutes, cs) ← readOffsetDigits cs
      if 60 ≤ minutes then .error .outOfRange
      else if !cs.isEmpty then .error .tooLong
      else if 24 ≤ hours then .error .outOfRange
      else .ok ()
    else .error .invalid

/-- Reads a timestamp with an offset. -/
def readZoned (cs : List Char) : Except TimestampError Timestamp := do
  if (String.ofList cs).utf8ByteSize < 19 then .error .tooShort
  let (year, cs) ← readDigits 4 cs
  let cs ← readOneOf ['-'] cs
  let (month, cs) ← readDigits 2 cs
  let cs ← readOneOf ['-'] cs
  let (day, cs) ← readDigits 2 cs
  let some date := Date.ofNumbers? year month day | .error .outOfRange
  let cs ← readOneOf ['T', 't', ' '] cs
  let (hour, cs) ← readDigits 2 cs
  let cs ← readOneOf [':'] cs
  let (minute, cs) ← readDigits 2 cs
  let cs ← readOneOf [':'] cs
  let (second, cs) ← readDigits 2 cs
  let (nanosecond, cs) ← readFraction cs
  let some time := ClockTime.ofNumbers? hour minute second nanosecond | .error .outOfRange
  readOffset cs
  return ⟨date, time⟩

/-- Reads a timestamp in either form. -/
def read (s : String) : Except TimestampError Timestamp :=
  match readLocal? s.toList with
  | some t => .ok t
  | none => readZoned s.toList

end Timestamp

end ReceiptRules
