import ReceiptRules.Decimal.Basic

/-!
# Shortest decimals

The decimal of fewest digits that rounds to a given finite double, and of those the nearest to it. All
comparisons are exact: numbers are written as multiples of one power of ten, small enough to hold the
double, its two neighbours and the points halfway to them.
-/

namespace ReceiptRules.Decimal

/-- The numbers that round to a double, as multiples of `10 ^ exponent`: those between `low` and
`high`, the ends included if `closed`. The double itself is `middle`. -/
structure RoundingInterval where
  low : Nat
  middle : Nat
  high : Nat
  closed : Bool
  exponent : Int

namespace RoundingInterval

/-- The interval of a positive double. Below a power of two the next double is only half as far away;
an end rounds to the double exactly if the mantissa is even. -/
def ofBinary (b : Binary) : RoundingInterval :=
  let unit := 25 * if 0 ≤ b.exponent then Nat.pow 2 b.exponent.toNat else Nat.pow 5 b.exponent.natAbs
  let gap := if b.mantissa = Binary.leadingBit && -1074 < b.exponent then 1 else 2
  { low := (4 * b.mantissa - gap) * unit
    middle := 4 * b.mantissa * unit
    high := (4 * b.mantissa + 2) * unit
    closed := b.mantissa % 2 = 0
    exponent := min b.exponent 0 - 2 }

def contains (i : RoundingInterval) (n : Nat) : Bool :=
  if i.closed then i.low ≤ n && n ≤ i.high else i.low < n && n < i.high

/-- The multiple of `grid` in the interval that is nearest to the middle, if there is one; of two
equally near the one with the even factor. The result is the factor. -/
def nearest? (i : RoundingInterval) (grid : Nat) : Option Nat :=
  let below := i.middle / grid
  let above := below + 1
  match i.contains (below * grid), i.contains (above * grid) with
  | false, false => none
  | true, false => some below
  | false, true => some above
  | true, true =>
    let down := i.middle - below * grid
    let up := above * grid - i.middle
    some (if down < up || (down = up && below % 2 = 0) then below else above)

/-- The factor and the grid's power of ten for the coarsest of the grids `10 ^ places`, `10 ^ (places
- 1)`, … that has a point in the interval. -/
def coarsest (i : RoundingInterval) : Nat → Nat × Nat
  | 0 => (i.middle, 0)
  | places + 1 =>
    match i.nearest? (Nat.pow 10 (places + 1)) with
    | some factor => (factor, places + 1)
    | none => i.coarsest places

end RoundingInterval

/-- Moves the zeros at the end of a number into the power of ten; `fuel` bounds their number. -/
def stripZeros (n : Nat) (exponent : Int) : Nat → Nat × Int
  | 0 => (n, exponent)
  | fuel + 1 =>
    if n % 10 = 0 && n ≠ 0 then stripZeros (n / 10) (exponent + 1) fuel else (n, exponent)

/-- The shortest decimal of a finite double. -/
def ofFloat (x : Float) : Decimal :=
  let b := Binary.ofFloat x
  if b.mantissa = 0 then ⟨b.negative, 0, 0⟩
  else
    let interval := RoundingInterval.ofBinary b
    let (factor, places) := interval.coarsest (digitCount interval.middle)
    let (mantissa, exponent) := stripZeros factor (interval.exponent + places) (digitCount factor)
    ⟨b.negative, mantissa, exponent⟩

end ReceiptRules.Decimal
