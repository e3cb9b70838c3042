import ReceiptRules.Decimal.Shortest

/-!
# Layouts of decimal numbers

How the digits of a number are written out: with a point in its place, or with one digit before the
point and a power of ten. A layout is a record of these decisions, and `Layout.write` follows it.
-/

namespace ReceiptRules.Decimal

/-- Decisions on how numbers are written. The exponent of a number is that of its first digit. -/
structure Layout where
  /-- The least and the greatest exponent written without a power of ten; all, if there are none. -/
  positional : Option (Int × Int)
  /-- Whether a whole number written without a power of ten gets `.0`. -/
  wholePoint : Bool

namespace Layout

/-- JSON numbers keep a point, so that they read as no integers. -/
def json : Layout := ⟨some (-5, 15), true⟩

/-- Shown numbers have neither a power of ten nor a superfluous point. -/
def plain : Layout := ⟨none, false⟩

def isPositional (layout : Layout) (exponent : Int) : Bool :=
  match layout.positional with
  | some (least, greatest) => least ≤ exponent && exponent ≤ greatest
  | none => true

/-- Writes digits with the point in its place; `exponent` is that of the last digit. -/
def writePositional (wholePoint : Bool) (digits : List Char) (exponent : Int) : List Char :=
  if 0 ≤ exponent then
    digits ++ List.replicate exponent.toNat '0' ++ if wholePoint then ['.', '0'] else []
  else
    let places := exponent.natAbs
    if places < digits.length then
      digits.take (digits.length - places) ++ '.' :: digits.drop (digits.length - places)
    else '0' :: '.' :: List.replicate (places - digits.length) '0' ++ digits

/-- Writes digits with a power of ten; `exponent` is that of the first digit. -/
def writeScientific (digits : List Char) (exponent : Int) : List Char :=
  let point := match digits with
    | [] => []
    | [d] => [d]
    | d :: ds => d :: '.' :: ds
  point ++ 'e' :: (if exponent < 0 then '-' else '+') :: Nat.toDigits 10 exponent.natAbs

/-- The text of a decimal. -/
def write (layout : Layout) (d : Decimal) : List Char :=
  let digits := Nat.toDigits 10 d.mantissa
  let first : Int := d.exponent + digits.length - 1
  let size :=
    if layout.isPositional first then writePositional layout.wholePoint digits d.exponent
    else writeScientific digits first
  if d.negative then '-' :: size else size

end Layout

/-- A double as people read it: its shortest digits, or a word if it is not finite. -/
def display (x : Float) : String :=
  if x.isNaN then "NaN"
  else if x.isInf then if x < 0 then "-inf" else "inf"
  else String.ofList (Layout.plain.write (ofFloat x))

/-- A finite double as a JSON number. -/
def jsonText (x : Float) : String := String.ofList (Layout.json.write (ofFloat x))

end ReceiptRules.Decimal
