import ReceiptRules.Json5.Token

/-!
# From text to tokens

`tokenize` splits a text into tokens and drops the spaces and comments between them. A text that is no
sequence of tokens has none.
-/

namespace ReceiptRules.Json5

open Text.Property (isAsciiHexDigit)

/-! ## Spaces and comments -/

/-- The rest of a text after the comment that it starts in; none if the comment is not closed. -/
def afterBlockComment? : List Char → Option (List Char)
  | '*' :: '/' :: rest => some rest
  | _ :: rest => afterBlockComment? rest
  | [] => none

/-- The rest of a text from the end of its first line on. -/
def afterLine (cs : List Char) : List Char := cs.dropWhile fun c => !isLineTerminator c

/-! ## Strings and names -/

/-- Takes exactly `count` hexadecimal digits. -/
def takeHexDigits? (count : Nat) (cs : List Char) : Option (List Char × List Char) :=
  let digits := cs.take count
  if digits.length = count && digits.all isAsciiHexDigit then some (digits, cs.drop count) else none

/-- Reads what follows a backslash in a string. A line end there is no part of the string. -/
def readEscape? : List Char → Option (Option Component × List Char)
  | '\r' :: '\n' :: rest => some (none, rest)
  | '0' :: rest => some (some .nul, rest)
  | 'x' :: rest => (takeHexDigits? 2 rest).map fun (digits, rest) => (some (.hex digits), rest)
  | 'u' :: rest => (takeHexDigits? 4 rest).map fun (digits, rest) => (some (.unicode digits), rest)
  | c :: rest =>
    if isLineTerminator c then some (none, rest)
    else if c.isDigit then none
    else some (some (.escape c), rest)
  | [] => none

/-- Reads a string up to its closing quote; `fuel` bounds the number of characters. -/
def readString? (quote : Char) : (fuel : Nat) → List Char → Option (List Component × List Char)
  | 0, _ => none
  | _ + 1, [] => none
  | fuel + 1, c :: rest =>
    if c = quote then some ([], rest)
    else if c = '\\' then do
      let (component, rest) ← readEscape? rest
      let (components, rest) ← readString? quote fuel rest
      return (component.toList ++ components, rest)
    else if isLineTerminator c then none
    else do
      let (components, rest) ← readString? quote fuel rest
      return (.literal c :: components, rest)

/-- Reads a component of a name. -/
def readNameComponent? (isStart : Bool) : List Char → Option (Component × List Char)
  | '\\' :: 'u' :: rest => (takeHexDigits? 4 rest).map fun (digits, rest) => (.unicode digits, rest)
  | c :: rest =>
    if isNameStart c || (!isStart && isNamePart c) then some (.literal c, rest) else none
  | [] => none

/-- Reads the components of a name after the first; `fuel` bounds their number. -/
def readNameRest : (fuel : Nat) → List Char → List Component × List Char
  | 0, cs => ([], cs)
  | fuel + 1, cs =>
    match readNameComponent? false cs with
    | some (component, rest) =>
      let (components, rest) := readNameRest fuel rest
      (component :: components, rest)
    | none => ([], cs)

/-! ## Numbers -/

/-- Splits off the digits at the start of a text. -/
def spanDigits (cs : List Char) : List Char × List Char :=
  (cs.takeWhile Char.isDigit, cs.dropWhile Char.isDigit)

/-- Splits off an exponent, if the text starts with one. -/
def spanExponent : List Char → List Char × List Char
  | [] => ([], [])
  | e :: cs =>
    if e = 'e' || e = 'E' then
      let (sign, rest) := match cs with
        | [] => ([], [])
        | s :: more => if s = '+' || s = '-' then ([s], more) else ([], cs)
      match spanDigits rest with
      | ([], _) => ([], e :: cs)
      | (digits, rest) => (e :: sign ++ digits, rest)
    else ([], e :: cs)

/-- Splits off the digits before a point: a zero, or digits without a zero in front. -/
def spanWhole : List Char → List Char × List Char
  | [] => ([], [])
  | c :: cs => if c = '0' then (['0'], cs) else spanDigits (c :: cs)

/-- Reads a decimal number without a sign. A point may stand before or after all digits. -/
def readDecimal? (cs : List Char) : Option (List Char × List Char) :=
  match spanWhole cs with
  | ([], '.' :: rest) =>
    match spanDigits rest with
    | ([], _) => none
    | (digits, rest) =>
      let (exponent, rest) := spanExponent rest
      some ('.' :: digits ++ exponent, rest)
  | ([], _) => none
  | (whole, '.' :: rest) =>
    let (digits, rest) := spanDigits rest
    let (exponent, rest) := spanExponent rest
    some (whole ++ '.' :: digits ++ exponent, rest)
  | (whole, rest) =>
    let (exponent, rest) := spanExponent rest
    some (whole ++ exponent, rest)

/-- Reads a hexadecimal number without a sign. -/
def readHexadecimal? : List Char → Option (List Char × List Char)
  | '0' :: x :: cs =>
    if x = 'x' || x = 'X' then
      match cs.takeWhile isAsciiHexDigit with
      | [] => none
      | digits => some ('0' :: x :: digits, cs.dropWhile isAsciiHexDigit)
    else none
  | _ => none

def infinityWord : List Char := ['I', 'n', 'f', 'i', 'n', 'i', 't', 'y']

def nanWord : List Char := ['N', 'a', 'N']

/-- Reads one of the two words that count as numbers. -/
def readNumberWord? (cs : List Char) : Option (List Char × List Char) :=
  if infinityWord.isPrefixOf cs then some (infinityWord, cs.drop infinityWord.length)
  else if nanWord.isPrefixOf cs then some (nanWord, cs.drop nanWord.length)
  else none

/-- Reads a number without a sign. -/
def readUnsigned? (cs : List Char) : Option (List Char × List Char) :=
  readHexadecimal? cs <|> readNumberWord? cs <|> readDecimal? cs

/-! ## Tokens -/

/-- The token of a single mark. -/
def markToken? : Char → Option Token
  | '\x7b' => some .openBrace
  | '\x7d' => some .closeBrace
  | '[' => some .openBracket
  | ']' => some .closeBracket
  | ':' => some .colon
  | ',' => some .comma
  | _ => none

/-- Reads one token that starts with the given character. -/
def readToken? (c : Char) (rest : List Char) : Option (Token × List Char) :=
  match markToken? c with
  | some token => some (token, rest)
  | none =>
    if c = '"' || c = '\'' then
      (readString? c (rest.length + 1) rest).map fun (components, rest) => (.string components, rest)
    else if c = '+' || c = '-' then
      (readUnsigned? rest).map fun (text, rest) => (.number (c :: text), rest)
    else if c = '.' || c.isDigit then
      (readUnsigned? (c :: rest)).map fun (text, rest) => (.number text, rest)
    else
      (readNameComponent? true (c :: rest)).map fun (component, rest) =>
        let (components, rest) := readNameRest rest.length rest
        (.name (component :: components), rest)

/-- Reads tokens to the end of the text; `fuel` bounds the number of tokens, spaces and comments. -/
def readTokens? : (fuel : Nat) → List Char → Option (List Token)
  | _, [] => some []
  | 0, _ :: _ => none
  | fuel + 1, '/' :: '/' :: rest => readTokens? fuel (afterLine rest)
  | fuel + 1, '/' :: '*' :: rest => (afterBlockComment? rest).bind (readTokens? fuel)
  | fuel + 1, c :: rest =>
    if isSpace c then readTokens? fuel rest
    else do
      let (token, rest) ← readToken? c rest
      let tokens ← readTokens? fuel rest
      return token :: tokens

/-- The tokens of a text. Each step takes a character, so the length of the text is fuel enough. -/
def tokenize? (cs : List Char) : Option (List Token) := readTokens? cs.length cs

end ReceiptRules.Json5
