import ReceiptRules.Text.RunLength
import ReceiptRules.Text.Category.Table

/-!
# General categories

Every code point has exactly one Unicode general category. The categories decide which characters
form words and identifiers, and which are shown as they are in quoted text.
-/

namespace ReceiptRules.Text

/-- The Unicode general categories. -/
inductive Category where
  | uppercaseLetter
  | lowercaseLetter
  | titlecaseLetter
  | modifierLetter
  | otherLetter
  | nonspacingMark
  | spacingMark
  | enclosingMark
  | decimalNumber
  | letterNumber
  | otherNumber
  | connectorPunctuation
  | dashPunctuation
  | openPunctuation
  | closePunctuation
  | initialPunctuation
  | finalPunctuation
  | otherPunctuation
  | mathSymbol
  | currencySymbol
  | modifierSymbol
  | otherSymbol
  | spaceSeparator
  | lineSeparator
  | paragraphSeparator
  | control
  | format
  | surrogate
  | privateUse
  | unassigned
  deriving Repr, DecidableEq

namespace Category

/-- All categories, letters first. -/
def all : List Category :=
  [.uppercaseLetter, .lowercaseLetter, .titlecaseLetter, .modifierLetter,
   .otherLetter, .nonspacingMark, .spacingMark, .enclosingMark,
   .decimalNumber, .letterNumber, .otherNumber, .connectorPunctuation,
   .dashPunctuation, .openPunctuation, .closePunctuation, .initialPunctuation,
   .finalPunctuation, .otherPunctuation, .mathSymbol, .currencySymbol,
   .modifierSymbol, .otherSymbol, .spaceSeparator, .lineSeparator,
   .paragraphSeparator, .control, .format, .surrogate,
   .privateUse, .unassigned]

/-- The two-letter name of a category. Its first letter names the group of the category. -/
def abbreviation : Category → String
  | .uppercaseLetter => "Lu"
  | .lowercaseLetter => "Ll"
  | .titlecaseLetter => "Lt"
  | .modifierLetter => "Lm"
  | .otherLetter => "Lo"
  | .nonspacingMark => "Mn"
  | .spacingMark => "Mc"
  | .enclosingMark => "Me"
  | .decimalNumber => "Nd"
  | .letterNumber => "Nl"
  | .otherNumber => "No"
  | .connectorPunctuation => "Pc"
  | .dashPunctuation => "Pd"
  | .openPunctuation => "Ps"
  | .closePunctuation => "Pe"
  | .initialPunctuation => "Pi"
  | .finalPunctuation => "Pf"
  | .otherPunctuation => "Po"
  | .mathSymbol => "Sm"
  | .currencySymbol => "Sc"
  | .modifierSymbol => "Sk"
  | .otherSymbol => "So"
  | .spaceSeparator => "Zs"
  | .lineSeparator => "Zl"
  | .paragraphSeparator => "Zp"
  | .control => "Cc"
  | .format => "Cf"
  | .surrogate => "Cs"
  | .privateUse => "Co"
  | .unassigned => "Cn"

/-- The full name of a category, in lower case and without separators. -/
def longName : Category → String
  | .uppercaseLetter => "uppercaseletter"
  | .lowercaseLetter => "lowercaseletter"
  | .titlecaseLetter => "titlecaseletter"
  | .modifierLetter => "modifierletter"
  | .otherLetter => "otherletter"
  | .nonspacingMark => "nonspacingmark"
  | .spacingMark => "spacingmark"
  | .enclosingMark => "enclosingmark"
  | .decimalNumber => "decimalnumber"
  | .letterNumber => "letternumber"
  | .otherNumber => "othernumber"
  | .connectorPunctuation => "connectorpunctuation"
  | .dashPunctuation => "dashpunctuation"
  | .openPunctuation => "openpunctuation"
  | .closePunctuation => "closepunctuation"
  | .initialPunctuation => "initialpunctuation"
  | .finalPunctuation => "finalpunctuation"
  | .otherPunctuation => "otherpunctuation"
  | .mathSymbol => "mathsymbol"
  | .currencySymbol => "currencysymbol"
  | .modifierSymbol => "modifiersymbol"
  | .otherSymbol => "othersymbol"
  | .spaceSeparator => "spaceseparator"
  | .lineSeparator => "lineseparator"
  | .paragraphSeparator => "paragraphseparator"
  | .control => "control"
  | .format => "format"
  | .surrogate => "surrogate"
  | .privateUse => "privateuse"
  | .unassigned => "unassigned"

/-- The category with a two-letter name; any other name stands for `unassigned`. -/
def ofAbbreviation (name : String) : Category :=
  (all.find? fun category => category.abbreviation == name).getD .unassigned

/-- The categories of all code points. -/
def table : RunTable Category := RunTable.ofText ofAbbreviation runs

/-- Letters of any kind. -/
def isLetter : Category → Bool
  | .uppercaseLetter | .lowercaseLetter | .titlecaseLetter | .modifierLetter | .otherLetter => true
  | _ => false

/-- Marks of any kind. -/
def isMark : Category → Bool
  | .nonspacingMark | .spacingMark | .enclosingMark => true
  | _ => false

end Category

/-- The general category of a character. -/
def category (c : Char) : Category :=
  (Category.table.value? c.toNat).getD .unassigned

end ReceiptRules.Text
