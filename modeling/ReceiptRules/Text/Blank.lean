/-!
# Blank characters

The characters Unicode calls white space, and texts without them at their ends. A zero-width no-break
space is not among them.
-/

namespace ReceiptRules.Text

/-- Unicode white space: the ASCII blanks and line ends, and sixteen characters beyond ASCII. -/
def isBlank (c : Char) : Bool :=
  let n := c.toNat
  (9 ≤ n && n ≤ 13) || n == 0x20 || n == 0x85 || n == 0xA0 || n == 0x1680 ||
    (0x2000 ≤ n && n ≤ 0x200A) || n == 0x2028 || n == 0x2029 || n == 0x202F || n == 0x205F ||
    n == 0x3000

/-- A text without the characters of `p` at its start. -/
def trimStart (p : Char → Bool) (cs : List Char) : List Char := cs.dropWhile p

/-- A text without the characters of `p` at its end. -/
def trimEnd (p : Char → Bool) (cs : List Char) : List Char := (cs.reverse.dropWhile p).reverse

/-- A text without blanks at either end. -/
def trim (cs : List Char) : List Char := trimEnd isBlank (trimStart isBlank cs)

@[simp] theorem trimStart_nil (p : Char → Bool) : trimStart p [] = [] := rfl

@[simp] theorem trimEnd_nil (p : Char → Bool) : trimEnd p [] = [] := rfl

/-- What is left after trimming the start does not start with a trimmed character. -/
theorem head?_trimStart {p : Char → Bool} {cs : List Char} {c : Char}
    (h : (trimStart p cs).head? = some c) : p c = false := by
  induction cs with
  | nil => simp at h
  | cons d ds ih =>
    by_cases hd : p d
    · exact ih (by simpa [trimStart, hd] using h)
    · simp [trimStart, hd] at h
      simpa [← h] using hd

end ReceiptRules.Text
