import ReceiptRules.Regex.Parser

/-!
# What written regular expressions mean

`Ast.meaning?` resolves the flags of a tree: it follows them from left to right, where a change holds up
to the end of the group that it stands in. Without the Unicode flag sets are sets of bytes, and a set
that holds a byte beyond ASCII could match a part of a character; such expressions have no meaning.
-/

namespace ReceiptRules.Regex

/-- The flags that are set at a place of an expression. -/
structure Flags where
  caseless : Bool
  multiLine : Bool
  dotAll : Bool
  swapGreed : Bool
  unicode : Bool
  crlf : Bool
  deriving Repr, DecidableEq

namespace Flags

/-- Only the Unicode flag is set from the start, and the one for case if asked for. -/
def initial (caseless : Bool) : Flags :=
  { caseless, multiLine := false, dotAll := false, swapGreed := false, unicode := true, crlf := false }

def change (flags : Flags) (flag : Flag) (value : Bool) : Flags :=
  match flag with
  | .caseless => { flags with caseless := value }
  | .multiLine => { flags with multiLine := value }
  | .dotAll => { flags with dotAll := value }
  | .swapGreed => { flags with swapGreed := value }
  | .unicode => { flags with unicode := value }
  | .crlf => { flags with crlf := value }
  | .verbose => flags

def changeAll (flags : Flags) (changes : FlagChanges) : Flags :=
  changes.foldl (fun flags (flag, value) => flags.change flag value) flags

end Flags

/-! ## Sets -/

/-- Whether a set of bytes holds none beyond ASCII. -/
def isAsciiOnly (s : CharSet) : Bool :=
  (List.range 128).all fun n => !s.contains (Char.ofNat (n + 128))

/-- Adds the other case of the members to a set if case does not count. -/
def foldSet (flags : Flags) (s : CharSet) : CharSet :=
  if !flags.caseless then s else if flags.unicode then .folded s else .asciiFolded s

/-- Turns a set into its complement, among all characters or among bytes. -/
def negateSet (flags : Flags) (negated : Bool) (s : CharSet) : CharSet :=
  if !negated then s else if flags.unicode then .complement s else .diff .bytes s

/-- Without the Unicode flag a set that holds a byte beyond ASCII has no meaning. -/
def checkSet? (flags : Flags) (s : CharSet) : Option CharSet :=
  if flags.unicode || isAsciiOnly s then some s else none

/-- The set of a one-letter class. -/
def perlSet (flags : Flags) (k : PerlClass) : CharSet :=
  match k, flags.unicode with
  | .digit, true => .category .decimalNumber
  | .space, true => .property .whiteSpace
  | .word, true => .word
  | .digit, false => .asciiDigits
  | .space, false => .union (.range '\t' '\r') (.single ' ')
  | .word, false => .asciiWord

/-- The set of one character between brackets. -/
def singleSet? (flags : Flags) (c : Char) (byte : Bool) : Option CharSet :=
  if flags.unicode || byte || c.toNat < 0x80 then some (.single c) else none

/-- The set that is written between brackets. The operands of an operator, and a set in brackets of its
own, are folded before they are joined. -/
def BracketSet.meaning? (flags : Flags) : BracketSet → Option CharSet
  | empty => some .none
  | range low high => if flags.unicode || high.toNat < 0x100 then some (.range low high) else none
  | single c byte => singleSet? flags c byte
  | ascii negated s => some (negateSet flags negated (foldSet flags s))
  | perl negated k => some (negateSet flags negated (perlSet flags k))
  | unicode negated s =>
    if flags.unicode then some (negateSet flags negated (foldSet flags s)) else none
  | union a b => return .union (← a.meaning? flags) (← b.meaning? flags)
  | inter a b => return .inter (foldSet flags (← a.meaning? flags)) (foldSet flags (← b.meaning? flags))
  | diff a b => return .diff (foldSet flags (← a.meaning? flags)) (foldSet flags (← b.meaning? flags))
  | symmDiff a b =>
    return .symmDiff (foldSet flags (← a.meaning? flags)) (foldSet flags (← b.meaning? flags))
  | bracket negated a => do
    checkSet? flags (negateSet flags negated (foldSet flags (← a.meaning? flags)))

/-! ## Expressions -/

/-- The expression for one character. -/
def literal? (flags : Flags) (c : Char) (byte : Bool) : Option Regex :=
  if flags.unicode then some (set (if flags.caseless then .caseless c else .single c))
  else if byte && 0x80 ≤ c.toNat then none
  else some (set (foldSet flags (.single c)))

/-- The expression for any character but those that end a line. -/
def dot? (flags : Flags) : Option Regex :=
  if !flags.unicode then none
  else if flags.dotAll then some (set .all)
  else if flags.crlf then some (set (.complement (.union (.single '\n') (.single '\r'))))
  else some (set (.complement (.single '\n')))

/-- The assertion that is written. -/
def WrittenAssertion.meaning (flags : Flags) : WrittenAssertion → Assertion
  | caret => if !flags.multiLine then .textStart else if flags.crlf then .crlfLineStart else .lineStart
  | dollar => if !flags.multiLine then .textEnd else if flags.crlf then .crlfLineEnd else .lineEnd
  | textStart => .textStart
  | textEnd => .textEnd
  | wordBoundary => .wordBoundary (!flags.unicode)
  | noWordBoundary => .noWordBoundary (!flags.unicode)
  | wordStart => .wordStart (!flags.unicode)
  | wordEnd => .wordEnd (!flags.unicode)
  | wordStartHalf => .wordStartHalf (!flags.unicode)
  | wordEndHalf => .wordEndHalf (!flags.unicode)

/-- The meaning of an expression under flags, and the flags after it. -/
def Ast.meaning? (flags : Flags) : Ast → Option (Regex × Flags)
  | empty => some (.empty, flags)
  | literal c byte => (literal? flags c byte).map (·, flags)
  | dot => (dot? flags).map (·, flags)
  | assertion a => some (look (a.meaning flags), flags)
  | perl negated k =>
    (checkSet? flags (negateSet flags negated (perlSet flags k))).map fun s => (set s, flags)
  | unicode negated s =>
    if flags.unicode then some (set (negateSet flags negated (foldSet flags s)), flags) else none
  | bracket negated a => do
    let s ← (BracketSet.bracket negated a).meaning? flags
    return (set s, flags)
  | setFlags changes => some (.empty, flags.changeAll changes)
  | group changes a => do
    let (r, _) ← a.meaning? (flags.changeAll changes)
    return (r, flags)
  | repetition min max greedy a => do
    let (r, flags) ← a.meaning? flags
    return (iterate min max (greedy != flags.swapGreed) r, flags)
  | concat a b => do
    let (r, flags) ← a.meaning? flags
    let (s, flags) ← b.meaning? flags
    return (seq r s, flags)
  | alternation a b => do
    let (r, flags) ← a.meaning? flags
    let (s, flags) ← b.meaning? flags
    return (alt r s, flags)

/-- The regular expression that a text stands for, with or without regard to case. -/
def ofText? (caseless : Bool) (text : List Char) : Option Regex := do
  let ast ← Ast.ofText? text
  let (r, _) ← ast.meaning? (Flags.initial caseless)
  return r

end ReceiptRules.Regex
