import ReceiptRules.Text.LetterCase
import ReceiptRules.Text.Property
import ReceiptRules.Text.Script

/-!
# Sets of characters

The sets that regular expressions are made of, as expressions over ranges and Unicode properties, with
a membership test.
-/

namespace ReceiptRules.Regex

/-- A set of characters. -/
inductive CharSet where
  | none
  | all
  /-- The characters from the first to the second, both included. -/
  | range (low high : Char)
  /-- The characters that are the same as the given one up to case. -/
  | caseless (c : Char)
  | category (k : Text.Category)
  | script (s : Text.Script)
  | property (p : Text.Property)
  /-- The characters that form words. -/
  | word
  | union (a b : CharSet)
  | inter (a b : CharSet)
  | complement (a : CharSet)
  /-- The characters that are the same as one of the set up to case. -/
  | folded (a : CharSet)
  /-- The characters that are the same as one of the set up to the case of ASCII letters. -/
  | asciiFolded (a : CharSet)
  deriving Repr, DecidableEq

namespace CharSet

/-- Whether a character is in a set. -/
def contains : CharSet → Char → Bool
  | none, _ => false
  | all, _ => true
  | range low high, c => low ≤ c && c ≤ high
  | caseless d, c => Text.fold c == Text.fold d
  | category k, c => Text.category c == k
  | script s, c => Text.script c == s
  | property p, c => p.holds c
  | word, c => Text.isWordChar c
  | union a b, c => a.contains c || b.contains c
  | inter a b, c => a.contains c && b.contains c
  | complement a, c => !a.contains c
  | folded a, c => (Text.variants c).any a.contains
  | asciiFolded a, c => a.contains c || a.contains c.toLower || a.contains c.toUpper

/-- The set of one character. -/
def single (c : Char) : CharSet := range c c

/-- The characters of the first set that are not in the second. -/
def diff (a b : CharSet) : CharSet := inter a (complement b)

/-- The characters of exactly one of two sets. -/
def symmDiff (a b : CharSet) : CharSet := union (diff a b) (diff b a)

/-- The union of several sets. -/
def unions (sets : List CharSet) : CharSet := sets.foldr union none

/-- The characters of at most eight bits. -/
def bytes : CharSet := range '\x00' '\xff'

/-- The ASCII characters. -/
def ascii : CharSet := range '\x00' '\x7f'

@[simp] theorem contains_union (a b : CharSet) (c : Char) :
    (union a b).contains c = (a.contains c || b.contains c) := rfl

@[simp] theorem contains_inter (a b : CharSet) (c : Char) :
    (inter a b).contains c = (a.contains c && b.contains c) := rfl

@[simp] theorem contains_complement (a : CharSet) (c : Char) :
    (complement a).contains c = !a.contains c := rfl

@[simp] theorem contains_diff (a b : CharSet) (c : Char) :
    (diff a b).contains c = (a.contains c && !b.contains c) := rfl

@[simp] theorem contains_caseless (d c : Char) :
    (caseless d).contains c = (Text.fold c == Text.fold d) := rfl

end CharSet

end ReceiptRules.Regex
