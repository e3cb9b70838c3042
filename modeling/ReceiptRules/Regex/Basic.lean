import ReceiptRules.Regex.CharSet

/-!
# Regular expressions

Expressions over sets of characters, with assertions about the place between two characters and with
an order of preference: of two alternatives the first is preferred, and a greedy repetition prefers
more rounds, any other fewer.
-/

namespace ReceiptRules

namespace Regex

/-- A place in a line: the character before it, if there is one, and the characters after it. -/
structure Cursor where
  previous : Option Char
  rest : List Char
  deriving Repr, DecidableEq

namespace Cursor

/-- The start of a line. -/
def start (line : List Char) : Cursor := ⟨none, line⟩

/-- The place after the next character, if there is one. -/
def next? (c : Cursor) : Option Cursor :=
  match c.rest with
  | [] => none
  | x :: rest => some ⟨some x, rest⟩

/-- Whether the characters on either side of a place have a property. -/
def sides (p : Char → Bool) (c : Cursor) : Bool × Bool := (c.previous.any p, c.rest.head?.any p)

end Cursor

/-- A statement about a place in a line. -/
inductive Assertion where
  | textStart
  | textEnd
  | lineStart
  | lineEnd
  /-- The start of a line that may end in a carriage return and a line feed. -/
  | crlfLineStart
  /-- The end of a line that may end in a carriage return and a line feed. -/
  | crlfLineEnd
  | wordBoundary (ascii : Bool)
  | noWordBoundary (ascii : Bool)
  | wordStart (ascii : Bool)
  | wordEnd (ascii : Bool)
  /-- No word ends in a character before the place. -/
  | wordStartHalf (ascii : Bool)
  /-- No word starts in a character after the place. -/
  | wordEndHalf (ascii : Bool)
  deriving Repr, DecidableEq

/-- Characters of words, of all scripts or of ASCII only. -/
def isWordChar (ascii : Bool) (c : Char) : Bool :=
  if ascii then c.isAlphanum || c == '_' else Text.isWordChar c

/-- Whether an assertion is true of a place. -/
def Assertion.holds (c : Cursor) : Assertion → Bool
  | textStart => c.previous.isNone
  | textEnd => c.rest.isEmpty
  | lineStart => c.previous.all (· == '\n')
  | lineEnd => c.rest.head?.all (· == '\n')
  | crlfLineStart =>
    c.previous.all fun p => p == '\n' || (p == '\r' && c.rest.head?.all (· != '\n'))
  | crlfLineEnd =>
    c.rest.head?.all fun n => n == '\r' || (n == '\n' && c.previous.all (· != '\r'))
  | wordBoundary ascii =>
    let (before, after) := c.sides (isWordChar ascii)
    before != after
  | noWordBoundary ascii =>
    let (before, after) := c.sides (isWordChar ascii)
    before == after
  | wordStart ascii =>
    let (before, after) := c.sides (isWordChar ascii)
    !before && after
  | wordEnd ascii =>
    let (before, after) := c.sides (isWordChar ascii)
    before && !after
  | wordStartHalf ascii => !(c.sides (isWordChar ascii)).1
  | wordEndHalf ascii => !(c.sides (isWordChar ascii)).2

end Regex

/-- A regular expression. -/
inductive Regex where
  | empty
  | set (s : Regex.CharSet)
  | look (a : Regex.Assertion)
  | seq (a b : Regex)
  | alt (a b : Regex)
  /-- At least `min` and at most `max` rounds; any number of rounds, if there is no `max`. -/
  | iterate (min : Nat) (max : Option Nat) (greedy : Bool) (r : Regex)
  deriving Repr, DecidableEq

namespace Regex

/-- The expression for a text up to case. -/
def phrase : List Char → Regex
  | [] => empty
  | c :: cs => seq (set (.caseless c)) (phrase cs)

end Regex

end ReceiptRules
