import ReceiptRules.Text.Property

/-!
# Tokens of JSON5

JSON5 text is read in two stages, first into tokens and then into a tree. A token keeps what was
written: strings and names are lists of components, and numbers keep their digits. What they stand for
is decided later, because some of them stand for nothing.
-/

namespace ReceiptRules.Json5

/-- A part of a written string or name. -/
inductive Component where
  /-- A character that stands for itself. -/
  | literal (c : Char)
  /-- A backslash and a character. -/
  | escape (c : Char)
  /-- A backslash and a zero. -/
  | nul
  /-- A backslash, `x` and two hexadecimal digits. -/
  | hex (digits : List Char)
  /-- A backslash, `u` and four hexadecimal digits. -/
  | unicode (digits : List Char)
  deriving Repr, DecidableEq

/-- A token. -/
inductive Token where
  | openBrace
  | closeBrace
  | openBracket
  | closeBracket
  | colon
  | comma
  | name (components : List Component)
  | string (components : List Component)
  | number (text : List Char)
  deriving Repr, DecidableEq

/-- The four characters that end a line. -/
def isLineTerminator (c : Char) : Bool :=
  c == '\n' || c == '\r' || c == '\u2028' || c == '\u2029'

/-- The characters between tokens. -/
def isSpace (c : Char) : Bool :=
  c == ' ' || c == '\t' || c == '\x0b' || c == '\x0c' || isLineTerminator c || c == '\u00A0' ||
    c == '\uFEFF' || (0x80 ≤ c.toNat && Text.category c == .spaceSeparator)

/-- The characters that may start a name. -/
def isNameStart (c : Char) : Bool :=
  c == '$' || c == '_' ||
    if c.toNat < 0x80 then c.isAlpha
    else
      let k := Text.category c
      k.isLetter || k == .letterNumber

/-- The characters that may follow in a name. -/
def isNamePart (c : Char) : Bool :=
  isNameStart c ||
    if c.toNat < 0x80 then c.isDigit || c == '^' || c == '\x60'
    else
      let k := Text.category c
      k == .nonspacingMark || k == .decimalNumber || k == .connectorPunctuation ||
        Text.Property.holds .diacritic c || Text.Property.isJoinControl c

end ReceiptRules.Json5
