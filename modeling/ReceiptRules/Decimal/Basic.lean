/-!
# Decimals and binary floating-point numbers

A decimal is a sign, a whole number and a power of ten. `Decimal.toFloat` rounds one to the nearest
double; `Binary.ofFloat` takes a finite double apart into a sign, a whole number and a power of two,
which is its exact value.
-/

namespace ReceiptRules

/-- The number `± mantissa · 10 ^ exponent`. -/
structure Decimal where
  negative : Bool
  mantissa : Nat
  exponent : Int
  deriving Repr, DecidableEq

namespace Decimal

/-- The number of decimal digits of a number; zero has one. -/
def digitCount (n : Nat) : Nat := (Nat.toDigits 10 n).length

/-- The nearest double, a half going to the even neighbour. Numbers of more than 400 places before or
after the point are infinite or zero without being computed. -/
def toFloat (d : Decimal) : Float :=
  let places : Int := digitCount d.mantissa + d.exponent
  let size : Float :=
    if d.mantissa = 0 || places < -400 then 0
    else if places > 400 then Float.ofBits 0x7FF0000000000000
    else OfScientific.ofScientific d.mantissa (decide (d.exponent < 0)) d.exponent.natAbs
  if d.negative then -size else size

end Decimal

/-- The number `± mantissa · 2 ^ exponent`. -/
structure Binary where
  negative : Bool
  mantissa : Nat
  exponent : Int
  deriving Repr, DecidableEq

namespace Binary

/-- The bit in front of the 52 fraction bits of a double. -/
def leadingBit : Nat := 0x10_0000_0000_0000

/-- The sign, the eleven exponent bits and the 52 fraction bits of a double. -/
def fields (x : Float) : Bool × Nat × Nat :=
  let bits := x.toBits.toNat
  (decide (0x8000_0000_0000_0000 ≤ bits), bits / leadingBit % 0x800, bits % leadingBit)

/-- The exact value of a finite double. The least exponent is shared by the numbers whose exponent
bits are zero, which lack the leading bit. -/
def ofFloat (x : Float) : Binary :=
  let (negative, biased, fraction) := fields x
  if biased = 0 then ⟨negative, fraction, -1074⟩
  else ⟨negative, leadingBit + fraction, (biased : Int) - 1075⟩

/-- The value as an integer, if it is one. -/
def toInt? (b : Binary) : Option Int :=
  let signed (n : Nat) : Int := if b.negative then -(n : Int) else n
  if 0 ≤ b.exponent then some (signed (b.mantissa * Nat.pow 2 b.exponent.toNat))
  else
    let divisor := Nat.pow 2 b.exponent.natAbs
    if b.mantissa % divisor = 0 then some (signed (b.mantissa / divisor)) else none

/-- The value as an integer of 64 bits with a sign, if it is whole. One beyond 64 bits becomes the
nearest that has them. -/
def toSigned? (b : Binary) : Option Int :=
  b.toInt?.map fun i => max (-0x8000_0000_0000_0000) (min i 0x7FFF_FFFF_FFFF_FFFF)

end Binary

end ReceiptRules
