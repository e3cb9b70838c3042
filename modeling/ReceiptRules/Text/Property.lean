import ReceiptRules.Text.Blank
import ReceiptRules.Text.Category
import ReceiptRules.Text.Property.Table

/-!
# Binary properties of characters

The yes-or-no properties that patterns may name. Most are a union of general categories and a small
table of further characters.
-/

namespace ReceiptRules.Text

/-- A yes-or-no property of characters. -/
inductive Property where
  | alphabetic
  | lowercase
  | uppercase
  | cased
  | whiteSpace
  | asciiHexDigit
  | hexDigit
  | dash
  | diacritic
  | emoji
  | extender
  | graphemeExtend
  | ideographic
  | joinControl
  | math
  | quotationMark
  | regionalIndicator
  | variationSelector
  deriving Repr, DecidableEq

namespace Property

/-- All properties. -/
def all : List Property :=
  [.alphabetic, .lowercase, .uppercase, .cased, .whiteSpace, .asciiHexDigit, .hexDigit, .dash,
   .diacritic, .emoji, .extender, .graphemeExtend, .ideographic, .joinControl, .math,
   .quotationMark, .regionalIndicator, .variationSelector]

/-- The names of a property, in lower case and without separators. -/
def names : Property → List String
  | .alphabetic => ["alphabetic", "alpha"]
  | .lowercase => ["lowercase", "lower"]
  | .uppercase => ["uppercase", "upper"]
  | .cased => ["cased"]
  | .whiteSpace => ["whitespace", "wspace", "space"]
  | .asciiHexDigit => ["asciihexdigit", "ahex"]
  | .hexDigit => ["hexdigit", "hex"]
  | .dash => ["dash"]
  | .diacritic => ["diacritic", "dia"]
  | .emoji => ["emoji"]
  | .extender => ["extender", "ext"]
  | .graphemeExtend => ["graphemeextend", "grext"]
  | .ideographic => ["ideographic", "ideo"]
  | .joinControl => ["joincontrol", "joinc"]
  | .math => ["math"]
  | .quotationMark => ["quotationmark", "qmark"]
  | .regionalIndicator => ["regionalindicator", "ri"]
  | .variationSelector => ["variationselector", "vs"]

def otherAlphabetic : RunTable Bool := membershipTable otherAlphabeticRuns

def otherLowercase : RunTable Bool := membershipTable otherLowercaseRuns

def otherUppercase : RunTable Bool := membershipTable otherUppercaseRuns

def otherGraphemeExtend : RunTable Bool := membershipTable otherGraphemeExtendRuns

def otherMath : RunTable Bool := membershipTable otherMathRuns

def diacritics : RunTable Bool := membershipTable diacriticsRuns

def emojis : RunTable Bool := membershipTable emojiRuns

def ideographs : RunTable Bool := membershipTable ideographsRuns

def extenders : RunTable Bool := membershipTable extendersRuns

def dashes : RunTable Bool := membershipTable dashesRuns

def quotationMarks : RunTable Bool := membershipTable quotationMarksRuns

/-- Lower-case characters. -/
def isLowercase (c : Char) : Bool :=
  category c == .lowercaseLetter || otherLowercase.contains c.toNat

/-- Upper-case characters. -/
def isUppercase (c : Char) : Bool :=
  category c == .uppercaseLetter || otherUppercase.contains c.toNat

/-- ASCII hexadecimal digits. -/
def isAsciiHexDigit (c : Char) : Bool :=
  c.isDigit || ('a' ≤ c && c ≤ 'f') || ('A' ≤ c && c ≤ 'F')

/-- Hexadecimal digits, the full-width forms included. -/
def isHexDigit (c : Char) : Bool :=
  isAsciiHexDigit c || ('\uFF10' ≤ c && c ≤ '\uFF19') || ('\uFF21' ≤ c && c ≤ '\uFF26') ||
    ('\uFF41' ≤ c && c ≤ '\uFF46')

/-- The zero-width characters that join or separate letters. -/
def isJoinControl (c : Char) : Bool := c == '\u200C' || c == '\u200D'

/-- The characters that select a variant of the one before. -/
def isVariationSelector (c : Char) : Bool :=
  let n := c.toNat
  (0x180B ≤ n && n ≤ 0x180D) || n == 0x180F || (0xFE00 ≤ n && n ≤ 0xFE0F) ||
    (0xE0100 ≤ n && n ≤ 0xE01EF)

/-- Whether a character has a property. -/
def holds : Property → Char → Bool
  | .alphabetic, c =>
    (category c).isLetter || category c == .letterNumber || otherAlphabetic.contains c.toNat
  | .lowercase, c => isLowercase c
  | .uppercase, c => isUppercase c
  | .cased, c => isLowercase c || isUppercase c || category c == .titlecaseLetter
  | .whiteSpace, c => isBlank c
  | .asciiHexDigit, c => isAsciiHexDigit c
  | .hexDigit, c => isHexDigit c
  | .dash, c => dashes.contains c.toNat
  | .diacritic, c => diacritics.contains c.toNat
  | .emoji, c => emojis.contains c.toNat
  | .extender, c => extenders.contains c.toNat
  | .graphemeExtend, c =>
    category c == .nonspacingMark || category c == .enclosingMark ||
      otherGraphemeExtend.contains c.toNat
  | .ideographic, c => ideographs.contains c.toNat
  | .joinControl, c => isJoinControl c
  | .math, c => category c == .mathSymbol || otherMath.contains c.toNat
  | .quotationMark, c => quotationMarks.contains c.toNat
  | .regionalIndicator, c => 0x1F1E6 ≤ c.toNat && c.toNat ≤ 0x1F1FF
  | .variationSelector, c => isVariationSelector c

end Property

/-- Characters that form words: letters, marks, digits, connectors and joiners. -/
def isWordChar (c : Char) : Bool :=
  if c.toNat < 0x80 then c.isAlphanum || c == '_'
  else
    let k := category c
    Property.holds .alphabetic c || k.isMark || k == .decimalNumber || k == .connectorPunctuation ||
      Property.isJoinControl c

end ReceiptRules.Text
