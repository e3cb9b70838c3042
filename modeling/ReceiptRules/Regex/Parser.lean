import ReceiptRules.Regex.Ast
import ReceiptRules.Regex.Names

/-!
# Reading regular expressions

`Ast.ofText?` reads a regular expression; a text that is none has no tree. Every function here takes
the rest of the text and gives back what it read and what is left. Where `verbose` is set, blanks and
comments between the marks are skipped.
-/

namespace ReceiptRules.Regex

/-! ## Blanks, numbers and characters -/

/-- The rest of a text after blanks and, from `#` to the end of the line, comments. -/
def skipBlanks : (inComment : Bool) → List Char → List Char
  | _, [] => []
  | true, c :: cs => skipBlanks (c != '\n') cs
  | false, c :: cs =>
    if Text.isBlank c then skipBlanks false cs
    else if c == '#' then skipBlanks true cs
    else c :: cs

/-- Skips blanks and comments if they are to be skipped. -/
def skip (verbose : Bool) (cs : List Char) : List Char :=
  if verbose then skipBlanks false cs else cs

/-- The value of a hexadecimal digit. -/
def hexValue? (c : Char) : Option Nat :=
  if c.isDigit then some (c.toNat - '0'.toNat)
  else if 'a' ≤ c && c ≤ 'f' then some (c.toNat - 'a'.toNat + 10)
  else if 'A' ≤ c && c ≤ 'F' then some (c.toNat - 'A'.toNat + 10)
  else none

/-- The character with a number, if there is one. -/
def charOfNat? (n : Nat) : Option Char :=
  if n.isValidChar then some (Char.ofNat n) else none

/-- The character whose number is given by hexadecimal digits, at least one. -/
def charOfHex? (digits : List Char) : Option Char :=
  if digits.isEmpty then none
  else
    (digits.foldl (fun acc c => do return 16 * (← acc) + (← hexValue? c)) (some 0)).bind charOfNat?

/-- Takes decimal digits, between which blanks and comments may stand. -/
def takeDigits (verbose : Bool) : (fuel : Nat) → List Char → List Char × List Char
  | fuel + 1, c :: cs =>
    if c.isDigit then
      let (digits, rest) := takeDigits verbose fuel (skip verbose cs)
      (c :: digits, rest)
    else ([], c :: cs)
  | _, cs => ([], cs)

/-- Reads a number of up to 32 bits with blanks around it. -/
def readNumber? (verbose : Bool) (cs : List Char) : Option Nat × List Char :=
  let (digits, rest) := takeDigits verbose cs.length (Text.trimStart Text.isBlank cs)
  let value := digits.foldl (fun n d => 10 * n + (d.toNat - '0'.toNat)) 0
  let rest := skip verbose (Text.trimStart Text.isBlank rest)
  (if digits.isEmpty || 0x1_0000_0000 ≤ value then none else some value, rest)

/-! ## Escapes -/

/-- Takes exactly `count` hexadecimal digits. -/
def takeHex? (verbose : Bool) : (count : Nat) → List Char → Option (List Char × List Char)
  | 0, cs => some ([], cs)
  | count + 1, c :: cs =>
    if (hexValue? c).isSome then
      (takeHex? verbose count (skip verbose cs)).map fun (digits, rest) => (c :: digits, rest)
    else none
  | _ + 1, [] => none

/-- Takes characters up to a closing brace; blanks and comments are left out. -/
def takeBraced? (verbose : Bool) : (fuel : Nat) → List Char → Option (List Char × List Char)
  | fuel + 1, c :: cs =>
    if c = '\x7d' then some ([], cs)
    else (takeBraced? verbose fuel (skip verbose cs)).map fun (taken, rest) => (c :: taken, rest)
  | _, _ => none

/-- Reads a character by its number, after the letter that says how many digits follow; any number of
digits may stand in braces. -/
def readHexEscape? (verbose : Bool) (count : Nat) (cs : List Char) : Option (Ast × List Char) :=
  match skip verbose cs with
  | '\x7b' :: rest => do
    let (digits, rest) ← takeBraced? verbose rest.length (skip verbose rest)
    let c ← charOfHex? digits
    return (.literal c false, skip verbose rest)
  | cs => do
    let (digits, rest) ← takeHex? verbose count cs
    let c ← charOfHex? digits
    return (.literal c (count == 2), rest)

/-- Splits a text at the first place where a mark stands. -/
def splitAt? (mark : List Char) : List Char → Option (List Char × List Char)
  | [] => none
  | c :: cs =>
    if mark.isPrefixOf (c :: cs) then some ([], (c :: cs).drop mark.length)
    else (splitAt? mark cs).map fun (before, after) => (c :: before, after)

/-- The Unicode set that is named between braces, and whether the name negates it. -/
def namedSet? (name : List Char) : Option (Bool × CharSet) :=
  match splitAt? ['!', '='] name with
  | some (property, value) => (CharSet.ofUnicodeValue? property value).map (true, ·)
  | none =>
    match splitAt? [':'] name <|> splitAt? ['='] name with
    | some (property, value) => (CharSet.ofUnicodeValue? property value).map (false, ·)
    | none => (CharSet.ofUnicodeName? name).map (false, ·)

/-- Reads the name of a Unicode set: one letter, or any name in braces. -/
def readUnicodeSet? (verbose negated : Bool) (cs : List Char) : Option (Ast × List Char) :=
  match skip verbose cs with
  | '\x7b' :: rest => do
    let (name, rest) ← takeBraced? verbose rest.length (skip verbose rest)
    let (inverted, s) ← namedSet? name
    return (.unicode (negated != inverted) s, rest)
  | c :: rest => do
    let s ← if c = '\\' then none else CharSet.ofUnicodeName? [c]
    return (.unicode negated s, skip verbose rest)
  | [] => none

/-- Reads what may follow the escape of a word boundary: in braces, the word for one side of a word. If
there is no letter after the brace it is no such word. -/
def readBoundary? (verbose : Bool) (cs : List Char) : Option (WrittenAssertion × List Char) :=
  match cs with
  | '\x7b' :: rest =>
    match skip verbose rest with
    | [] => none
    | c :: more =>
      if c.isAlpha || c = '-' then do
        let (word, rest) ← takeBraced? verbose (more.length + 1) (c :: more)
        match String.ofList word with
        | "start" => return (.wordStart, rest)
        | "end" => return (.wordEnd, rest)
        | "start-half" => return (.wordStartHalf, rest)
        | "end-half" => return (.wordEndHalf, rest)
        | _ => none
      else some (.wordBoundary, cs)
  | _ => some (.wordBoundary, cs)

/-- Reads what follows a backslash. -/
def readEscape? (verbose : Bool) : List Char → Option (Ast × List Char)
  | [] => none
  | c :: rest =>
    match c with
    | 'x' => readHexEscape? verbose 2 rest
    | 'u' => readHexEscape? verbose 4 rest
    | 'U' => readHexEscape? verbose 8 rest
    | 'p' => readUnicodeSet? verbose false rest
    | 'P' => readUnicodeSet? verbose true rest
    | 'd' => some (.perl false .digit, rest)
    | 'D' => some (.perl true .digit, rest)
    | 's' => some (.perl false .space, rest)
    | 'S' => some (.perl true .space, rest)
    | 'w' => some (.perl false .word, rest)
    | 'W' => some (.perl true .word, rest)
    | 'a' => some (.literal '\x07' false, rest)
    | 'f' => some (.literal '\x0c' false, rest)
    | 't' => some (.literal '\t' false, rest)
    | 'n' => some (.literal '\n' false, rest)
    | 'r' => some (.literal '\r' false, rest)
    | 'v' => some (.literal '\x0b' false, rest)
    | 'A' => some (.assertion .textStart, rest)
    | 'z' => some (.assertion .textEnd, rest)
    | 'b' => (readBoundary? verbose rest).map fun (a, rest) => (.assertion a, rest)
    | 'B' => some (.assertion .noWordBoundary, rest)
    | '<' => some (.assertion .wordStart, rest)
    | '>' => some (.assertion .wordEnd, rest)
    | c => if c.toNat < 0x80 && !c.isAlphanum then some (.literal c false, rest) else none

/-! ## Sets in brackets -/

/-- Reads a named ASCII set, after its opening bracket. -/
def readAsciiSet? (cs : List Char) : Option (BracketSet × List Char) :=
  match cs with
  | ':' :: rest =>
    let (negated, rest) := match rest with
      | '^' :: more => (true, more)
      | _ => (false, rest)
    match rest.dropWhile (· != ':') with
    | ':' :: ']' :: after =>
      (CharSet.ofAsciiName? (rest.takeWhile (· != ':'))).map fun s => (.ascii negated s, after)
    | _ => none
  | _ => none

/-- The set that a primitive stands for between brackets; assertions stand for none. -/
def bracketSet? : Ast → Option BracketSet
  | .literal c byte => some (.single c byte)
  | .perl negated k => some (.perl negated k)
  | .unicode negated s => some (.unicode negated s)
  | _ => none

/-- Reads one character or set between brackets. -/
def readBracketItem? (verbose : Bool) : List Char → Option (Ast × List Char)
  | [] => none
  | c :: rest => if c = '\\' then readEscape? verbose rest else some (.literal c false, rest)

/-- Reads a character, a set or a range between brackets. A hyphen before the closing bracket, or
before another hyphen, makes no range. -/
def readRange? (verbose : Bool) (cs : List Char) : Option (BracketSet × List Char) := do
  let (first, rest) ← readBracketItem? verbose cs
  match skip verbose rest with
  | [] => none
  | c :: after =>
    let next := (skip verbose after).head?
    if c != '-' || next == some ']' || next == some '-' then
      return (← bracketSet? first, c :: after)
    else
      let (second, rest) ← readBracketItem? verbose (skip verbose after)
      match first, second with
      | .literal low _, .literal high _ =>
        if low ≤ high then return (.range low high, rest) else none
      | _, _ => none

/-- The operators between sets. -/
inductive SetOperator where
  | inter
  | diff
  | symmDiff

def SetOperator.apply : SetOperator → BracketSet → BracketSet → BracketSet
  | inter, a, b => .inter a b
  | diff, a, b => .diff a b
  | symmDiff, a, b => .symmDiff a b

/-- The operator at the start of a text. -/
def readSetOperator? : List Char → Option (SetOperator × List Char)
  | '&' :: '&' :: rest => some (.inter, rest)
  | '-' :: '-' :: rest => some (.diff, rest)
  | '~' :: '~' :: rest => some (.symmDiff, rest)
  | _ => none

/-- What was read between brackets up to now: the operand and the operator before the last operator, if
there is one, and the members after it. -/
structure OpenSet where
  before : Option (BracketSet × SetOperator)
  members : BracketSet

namespace OpenSet

/-- The set read up to now. Operators have no precedence and group to the left. -/
def close (s : OpenSet) : BracketSet :=
  match s.before with
  | none => s.members
  | some (a, op) => op.apply a s.members

def add (s : OpenSet) (member : BracketSet) : OpenSet :=
  { s with members := match s.members with
      | .empty => member
      | members => .union members member }

def operate (s : OpenSet) (op : SetOperator) : OpenSet := ⟨some (s.close, op), .empty⟩

end OpenSet

/-- Takes the hyphens that stand first between brackets for themselves. -/
def takeHyphens (verbose : Bool) : (fuel : Nat) → OpenSet → List Char → OpenSet × List Char
  | fuel + 1, s, '-' :: rest => takeHyphens verbose fuel (s.add (.single '-' false)) (skip verbose rest)
  | _, s, cs => (s, cs)

/-- Reads the start of a set after its opening bracket: a mark that negates it, and the hyphens, or
else the closing bracket, that stand first for themselves. -/
def readSetStart (verbose : Bool) (cs : List Char) : Bool × OpenSet × List Char :=
  let cs := skip verbose cs
  let (negated, cs) := match cs with
    | '^' :: rest => (true, skip verbose rest)
    | _ => (false, cs)
  match takeHyphens verbose cs.length ⟨none, .empty⟩ cs with
  | (⟨none, .empty⟩, ']' :: rest) => (negated, ⟨none, .single ']' false⟩, skip verbose rest)
  | (s, cs) => (negated, s, cs)

/-- Reads the members of a set up to its closing bracket; `fuel` bounds their number. -/
def readSet? (verbose : Bool) : (fuel : Nat) → OpenSet → List Char → Option (BracketSet × List Char)
  | 0, _, _ => none
  | fuel + 1, s, cs =>
    match skip verbose cs with
    | [] => none
    | ']' :: rest => some (s.close, rest)
    | '[' :: rest =>
      match readAsciiSet? rest with
      | some (member, rest) => readSet? verbose fuel (s.add member) rest
      | none => do
        let (negated, inner, rest) := readSetStart verbose rest
        let (inner, rest) ← readSet? verbose fuel inner rest
        readSet? verbose fuel (s.add (.bracket negated inner)) rest
    | cs =>
      match readSetOperator? cs with
      | some (op, rest) => readSet? verbose fuel (s.operate op) rest
      | none => do
        let (member, rest) ← readRange? verbose cs
        readSet? verbose fuel (s.add member) rest

/-- Reads a set after its opening bracket. -/
def readBracket? (verbose : Bool) (cs : List Char) : Option (Ast × List Char) := do
  let (negated, inner, rest) := readSetStart verbose cs
  let (inner, rest) ← readSet? verbose (cs.length + 1) inner rest
  return (.bracket negated inner, rest)

/-! ## Repetitions -/

/-- Reads the question mark after a repetition, which makes it prefer fewer rounds. -/
def readGreed : List Char → Bool × List Char
  | '?' :: rest => (false, rest)
  | cs => (true, cs)

/-- Reads the bounds of a repetition after the opening brace. -/
def readBounds? (verbose : Bool) (cs : List Char) : Option (Nat × Option Nat × List Char) := do
  let (first, rest) := readNumber? verbose (skip verbose cs)
  let min ← first
  match rest with
  | '\x7d' :: rest => return (min, some min, rest)
  | ',' :: rest =>
    match skip verbose rest with
    | '\x7d' :: rest => return (min, none, rest)
    | rest =>
      let (second, rest) := readNumber? verbose rest
      let max ← second
      match rest with
      | '\x7d' :: rest => if min ≤ max then return (min, some max, rest) else none
      | _ => none
  | _ => none

/-- Repeats the last of the expressions read, which are in reverse order. Nothing, and a change of
flags, cannot be repeated. -/
def repeatLast? (min : Nat) (max : Option Nat) (greedy : Bool) : List Ast → Option (List Ast)
  | [] => none
  | .empty :: _ => none
  | .setFlags _ :: _ => none
  | a :: items => some (.repetition min max greedy a :: items)

/-! ## Groups -/

/-- The flag with a letter. -/
def flagOfLetter? : Char → Option Flag
  | 'i' => some .caseless
  | 'm' => some .multiLine
  | 's' => some .dotAll
  | 'U' => some .swapGreed
  | 'u' => some .unicode
  | 'R' => some .crlf
  | 'x' => some .verbose
  | _ => none

/-- Reads flags up to a colon or a closing parenthesis, which is left. The flags after a hyphen are
cleared; a flag, and the hyphen, may stand only once, and the hyphen not at the end. -/
def readFlags? (cleared justCleared : Bool) (changes : FlagChanges) :
    List Char → Option (FlagChanges × List Char)
  | [] => none
  | c :: rest =>
    if c = ':' || c = ')' then if justCleared then none else some (changes, c :: rest)
    else if c = '-' then if cleared then none else readFlags? true true changes rest
    else
      match flagOfLetter? c with
      | none => none
      | some flag =>
        if (changes.value? flag).isSome then none
        else readFlags? cleared false (changes ++ [(flag, !cleared)]) rest

/-- Whether a character may stand in the name of a group. -/
def isGroupNameChar (first : Bool) (c : Char) : Bool :=
  let k := Text.category c
  c == '_' || Text.Property.holds .alphabetic c ||
    (!first && (c == '.' || c == '[' || c == ']' || k == .decimalNumber || k == .letterNumber ||
      k == .otherNumber))

/-- Reads the name of a group and the mark after it. -/
def readGroupName? (cs : List Char) : Option (List Char × List Char) :=
  match cs.takeWhile (· != '>'), cs.dropWhile (· != '>') with
  | c :: name, _ :: rest =>
    if isGroupNameChar true c && name.all (isGroupNameChar false) then some (c :: name, rest) else none
  | _, _ => none

/-- What an opening parenthesis starts. -/
inductive GroupStart where
  /-- A change of flags without a group. -/
  | flags (changes : FlagChanges)
  | group (changes : FlagChanges) (name : Option (List Char))

/-- Reads the start of a group after its parenthesis. Statements about what is before or after a place
are refused. -/
def readGroupStart? (verbose : Bool) (cs : List Char) : Option (GroupStart × List Char) :=
  match skip verbose cs with
  | '?' :: '=' :: _ => none
  | '?' :: '!' :: _ => none
  | '?' :: '<' :: '=' :: _ => none
  | '?' :: '<' :: '!' :: _ => none
  | '?' :: 'P' :: '<' :: rest =>
    (readGroupName? rest).map fun (name, rest) => (.group [] (some name), rest)
  | '?' :: '<' :: rest =>
    (readGroupName? rest).map fun (name, rest) => (.group [] (some name), rest)
  | '?' :: rest =>
    match readFlags? false false [] rest with
    | some ([], ')' :: _) => none
    | some (changes, ')' :: rest) => some (.flags changes, rest)
    | some (changes, _ :: rest) => some (.group changes none, rest)
    | _ => none
  | cs => some (.group [] none, cs)

/-! ## Expressions -/

/-- What was read of a group up to now: the finished alternatives and the members of the last one, both
in reverse order, whether blanks are skipped, and the names of groups in the whole text. -/
structure Reading where
  verbose : Bool
  names : List (List Char)
  alternatives : List Ast
  items : List Ast

namespace Reading

/-- The expression read up to now. -/
def close (r : Reading) : Ast :=
  Ast.ofAlternatives ((Ast.ofRow r.items.reverse :: r.alternatives).reverse)

def add (r : Reading) (item : Ast) : Reading := { r with items := item :: r.items }

/-- Starts the next alternative. -/
def split (r : Reading) : Reading :=
  { r with alternatives := Ast.ofRow r.items.reverse :: r.alternatives, items := [] }

end Reading

/-- Reads the members of a group up to its closing parenthesis, which is left, or the end of the text;
`fuel` bounds the number of members. -/
def readMembers? : (fuel : Nat) → Reading → List Char → Option (Reading × List Char)
  | 0, _, _ => none
  | fuel + 1, r, cs =>
    match skip r.verbose cs with
    | [] => some (r, [])
    | c :: rest =>
      match c with
      | ')' => some (r, c :: rest)
      | '|' => readMembers? fuel r.split rest
      | '(' => do
        let (start, rest) ← readGroupStart? r.verbose rest
        match start with
        | .flags changes =>
          let verbose := (changes.value? .verbose).getD r.verbose
          readMembers? fuel { r.add (.setFlags changes) with verbose } rest
        | .group changes name =>
          let names ← match name with
            | none => some r.names
            | some name => if r.names.contains name then none else some (name :: r.names)
          let verbose := (changes.value? .verbose).getD r.verbose
          let (inner, rest) ← readMembers? fuel ⟨verbose, names, [], []⟩ rest
          match rest with
          | ')' :: rest =>
            readMembers? fuel { r.add (.group changes inner.close) with names := inner.names } rest
          | _ => none
      | '[' => do
        let (item, rest) ← readBracket? r.verbose rest
        readMembers? fuel (r.add item) rest
      | '?' => do
        let (greedy, rest) := readGreed rest
        let items ← repeatLast? 0 (some 1) greedy r.items
        readMembers? fuel { r with items } rest
      | '*' => do
        let (greedy, rest) := readGreed rest
        let items ← repeatLast? 0 none greedy r.items
        readMembers? fuel { r with items } rest
      | '+' => do
        let (greedy, rest) := readGreed rest
        let items ← repeatLast? 1 none greedy r.items
        readMembers? fuel { r with items } rest
      | '\x7b' => do
        let (min, max, rest) ← readBounds? r.verbose rest
        let (greedy, rest) := readGreed (skip r.verbose rest)
        let items ← repeatLast? min max greedy r.items
        readMembers? fuel { r with items } rest
      | '\\' => do
        let (item, rest) ← readEscape? r.verbose rest
        readMembers? fuel (r.add item) rest
      | '.' => readMembers? fuel (r.add .dot) rest
      | '^' => readMembers? fuel (r.add (.assertion .caret)) rest
      | '$' => readMembers? fuel (r.add (.assertion .dollar)) rest
      | c => readMembers? fuel (r.add (.literal c false)) rest

/-- The deepest nesting of an expression. -/
def nestingLimit : Nat := 250

/-- The tree of a regular expression. -/
def Ast.ofText? (cs : List Char) : Option Ast := do
  match ← readMembers? (cs.length + 1) ⟨false, [], [], []⟩ cs with
  | (r, []) => if r.close.depth ≤ nestingLimit then some r.close else none
  | _ => none

end ReceiptRules.Regex
