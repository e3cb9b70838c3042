import ReceiptRules.Regex.Basic

/-!
# Written regular expressions

The tree of a regular expression as it was written. What it means depends on flags that can be set
within it, so the tree keeps them; only the flag that allows blanks and comments is gone, since it
changes how the text is read and nothing else.
-/

namespace ReceiptRules.Regex

/-- The flags that change what an expression means. -/
inductive Flag where
  | caseless
  | multiLine
  | dotAll
  | swapGreed
  | unicode
  | crlf
  | verbose
  deriving Repr, DecidableEq

/-- Flags that are set and flags that are cleared, in the order written. -/
abbrev FlagChanges := List (Flag × Bool)

/-- The value that changes give to a flag, if they give it one. -/
def FlagChanges.value? (changes : FlagChanges) (flag : Flag) : Option Bool := changes.lookup flag

/-- The sets with a one-letter name. -/
inductive PerlClass where
  | digit
  | space
  | word
  deriving Repr, DecidableEq

/-- A set of characters as it was written between brackets. -/
inductive BracketSet where
  | empty
  | range (low high : Char)
  /-- One character; `byte` if it was written as two hexadecimal digits. -/
  | single (c : Char) (byte : Bool)
  | ascii (negated : Bool) (s : CharSet)
  | perl (negated : Bool) (k : PerlClass)
  | unicode (negated : Bool) (s : CharSet)
  | union (a b : BracketSet)
  | inter (a b : BracketSet)
  | diff (a b : BracketSet)
  | symmDiff (a b : BracketSet)
  /-- A set in brackets of its own. -/
  | bracket (negated : Bool) (a : BracketSet)
  deriving Repr, DecidableEq

/-- An assertion as it was written; whether it is about lines or about the whole text, and about which
words, is for the flags to say. -/
inductive WrittenAssertion where
  | caret
  | dollar
  | textStart
  | textEnd
  | wordBoundary
  | noWordBoundary
  | wordStart
  | wordEnd
  | wordStartHalf
  | wordEndHalf
  deriving Repr, DecidableEq

/-- A regular expression as it was written. -/
inductive Ast where
  | empty
  | literal (c : Char) (byte : Bool)
  | dot
  | assertion (a : WrittenAssertion)
  | perl (negated : Bool) (k : PerlClass)
  | unicode (negated : Bool) (s : CharSet)
  | bracket (negated : Bool) (a : BracketSet)
  /-- A change of flags up to the end of the group. -/
  | setFlags (changes : FlagChanges)
  /-- A group, with changes of flags inside it. -/
  | group (changes : FlagChanges) (a : Ast)
  | repetition (min : Nat) (max : Option Nat) (greedy : Bool) (a : Ast)
  | concat (a b : Ast)
  | alternation (a b : Ast)
  deriving Repr, DecidableEq

namespace BracketSet

/-- How deep brackets and operators are nested, where a row of united sets counts as one level. -/
def depth : BracketSet → Nat
  | union a b => max a.depth b.depth
  | inter a b => 1 + max a.depth b.depth
  | diff a b => 1 + max a.depth b.depth
  | symmDiff a b => 1 + max a.depth b.depth
  | bracket _ a => 1 + a.depth
  | _ => 0

end BracketSet

namespace Ast

mutual

/-- How deep an expression is nested, where a row of expressions, or of alternatives, counts as one
level. -/
def depth : Ast → Nat
  | bracket _ a => 1 + a.depth
  | group _ a => 1 + a.depth
  | repetition _ _ _ a => 1 + a.depth
  | concat a b => 1 + max a.depth b.concatDepth
  | alternation a b => 1 + max a.depth b.alternationDepth
  | _ => 0

/-- The depth of the further members of a row of expressions. -/
def concatDepth : Ast → Nat
  | bracket _ a => 1 + a.depth
  | group _ a => 1 + a.depth
  | repetition _ _ _ a => 1 + a.depth
  | concat a b => max a.depth b.concatDepth
  | alternation a b => 1 + max a.depth b.alternationDepth
  | _ => 0

/-- The depth of the further members of a row of alternatives. -/
def alternationDepth : Ast → Nat
  | bracket _ a => 1 + a.depth
  | group _ a => 1 + a.depth
  | repetition _ _ _ a => 1 + a.depth
  | concat a b => 1 + max a.depth b.concatDepth
  | alternation a b => max a.depth b.alternationDepth
  | _ => 0

end

/-- A row of expressions. -/
def ofRow : List Ast → Ast
  | [] => empty
  | [a] => a
  | a :: rest => concat a (ofRow rest)

/-- A row of alternatives. -/
def ofAlternatives : List Ast → Ast
  | [] => empty
  | [a] => a
  | a :: rest => alternation a (ofAlternatives rest)

end Ast

end ReceiptRules.Regex
