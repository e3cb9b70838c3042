import ReceiptRules.Text.LetterCase.Table

/-!
# Letter case

Lower-casing, and simple case folding. Two characters are the same up to case when they fold to the
same character; `variants` lists all characters that are the same as a given one.
-/

namespace ReceiptRules.Text

namespace CaseBlock

/-- Whether a code point is one of the block. -/
def contains (b : CaseBlock) (n : Nat) : Bool :=
  b.first ≤ n && n < b.first + b.count * b.step && (n - b.first) % b.step == 0

/-- The related code point of one of the block. -/
def image (b : CaseBlock) (n : Nat) : Nat := (n + b.offset).toNat

/-- The code point of the block, if there is one, whose related code point is `n`. -/
def preimage? (b : CaseBlock) (n : Nat) : Option Nat :=
  let m := (n - b.offset).toNat
  if b.contains m then some m else none

end CaseBlock

/-- The related character in the first block that holds a character. -/
def relatedBy? (blocks : List CaseBlock) (c : Char) : Option Char :=
  (blocks.find? (·.contains c.toNat)).map fun b => Char.ofNat (b.image c.toNat)

/-- The lower-case form of a character when it is a single character, otherwise the character. -/
def lowerChar (c : Char) : Char :=
  if c.toNat < 0x80 then c.toLower else (relatedBy? lowercaseBlocks c).getD c

/-- The lower-case form of a text. One character, a capital `I` with a dot, has a lower-case form of
two characters. A capital sigma becomes the same letter everywhere, also at the end of a word, where
full lower-casing has a form of its own; no ASCII text has either as its lower-case form. -/
def lowercase (cs : List Char) : List Char :=
  cs.flatMap fun c => if c == '\u0130' then ['i', '\u0307'] else [lowerChar c]

/-- The simple case folding of a character. -/
def fold (c : Char) : Char :=
  if c.toNat < 0x80 then c.toLower
  else (relatedBy? foldingBlocks c).getD (lowerChar c)

/-- All characters that fold to the same character as `c`. -/
def variants (c : Char) : List Char :=
  let folded := fold c
  let sources := (foldingBlocks ++ lowercaseBlocks).filterMap fun b =>
    (b.preimage? folded.toNat).map Char.ofNat
  (folded :: folded.toUpper :: sources).filter fun d => fold d == folded

/-- Whether there are other characters that fold to the same character as `c`. -/
def hasCase (c : Char) : Bool :=
  if c.toNat < 0x80 then c.isAlpha else (variants c).any (· != c)

@[simp] theorem lowercase_nil : lowercase [] = [] := rfl

@[simp] theorem lowercase_append (xs ys : List Char) :
    lowercase (xs ++ ys) = lowercase xs ++ lowercase ys := by
  simp [lowercase]

end ReceiptRules.Text
