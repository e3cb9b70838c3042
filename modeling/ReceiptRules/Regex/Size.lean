import ReceiptRules.Regex.Basic

/-!
# Sizes of regular expressions

The memory that an expression takes as an automaton over bytes, in which every round of a bounded
repetition has states of its own. Expressions that would take too much are refused. For characters
without case, and for pairs of letters whose forms differ in their last byte only, such as those of
ASCII but `k` and `s`, the size is that of their states; for other sets it is an estimate.
-/

namespace ReceiptRules.Regex

/-- The memory of one state, in bytes. -/
def stateSize : Nat := 32

/-- The memory of one way out of a state that has several, in bytes. -/
def transitionSize : Nat := 8

/-- The greatest size that an expression may have, in bytes. -/
def sizeLimit : Nat := 10_485_760

/-- The size of a set of characters. -/
def CharSet.size : CharSet → Nat
  | none => stateSize
  | all => 12 * stateSize
  | range low high => stateSize * (if low = high then low.utf8Size else 2 * high.utf8Size - 1)
  | caseless c =>
    if Text.hasCase c then stateSize * (c.utf8Size + 1) + 2 * transitionSize
    else stateSize * c.utf8Size
  | category _ => 250 * stateSize
  | script _ => 60 * stateSize
  | property _ => 250 * stateSize
  | word => 1400 * stateSize
  | union a b => a.size + b.size
  | inter a b => max a.size b.size
  | complement a => a.size + 12 * stateSize
  | folded a => a.size + stateSize
  | asciiFolded a => a.size + stateSize

/-- The size of an expression. -/
def size : Regex → Nat
  | empty => stateSize
  | set s => s.size
  | look _ => stateSize
  | seq a b => a.size + b.size
  | alt a b => a.size + b.size + stateSize
  | iterate min (some max) _ r => min * r.size + (max - min) * (r.size + stateSize) + stateSize
  | iterate min none _ r => max min 1 * r.size + stateSize

end ReceiptRules.Regex
