import ReceiptRules.Regex.CharSet

/-!
# Names of character sets

The sets that a regular expression can name: the ASCII sets, which stand between brackets and colons,
and the Unicode sets, which are named by a general category, a group of categories, a script or a
property.
-/

namespace ReceiptRules.Regex.CharSet

/-- ASCII letters. -/
def asciiLetters : CharSet := union (range 'a' 'z') (range 'A' 'Z')

/-- ASCII digits. -/
def asciiDigits : CharSet := range '0' '9'

/-- The characters of ASCII words. -/
def asciiWord : CharSet := unions [asciiLetters, asciiDigits, single '_']

/-- The ASCII set with a name. -/
def ofAsciiName? (name : List Char) : Option CharSet :=
  match String.ofList name with
  | "alnum" => some (union asciiLetters asciiDigits)
  | "alpha" => some asciiLetters
  | "ascii" => some ascii
  | "blank" => some (union (single '\t') (single ' '))
  | "cntrl" => some (union (range '\x00' '\x1f') (single '\x7f'))
  | "digit" => some asciiDigits
  | "graph" => some (range '!' '~')
  | "lower" => some (range 'a' 'z')
  | "print" => some (range ' ' '~')
  | "punct" => some (unions [range '!' '/', range ':' '@', range '[' '\x60', range '\x7b' '~'])
  | "space" => some (union (range '\t' '\r') (single ' '))
  | "upper" => some (range 'A' 'Z')
  | "word" => some asciiWord
  | "xdigit" => some (unions [asciiDigits, range 'A' 'F', range 'a' 'f'])
  | _ => Option.none

/-- A name without blanks, lines and case, and without `is` in front. -/
def looseName (name : List Char) : List Char :=
  let startsWithIs := match name with
    | i :: s :: _ => i.toLower == 'i' && s.toLower == 's'
    | _ => false
  let body := if startsWithIs then name.drop 2 else name
  let kept := (body.filter fun c => c != ' ' && c != '_' && c != '-' && c.toNat < 0x80).map Char.toLower
  if startsWithIs && kept == ['c'] then ['i', 's', 'c'] else kept

/-- The union of the general categories whose two-letter names start with a letter. -/
def categoryGroup (initial : Char) : CharSet :=
  unions ((Text.Category.all.filter fun k => k.abbreviation.toList.head? == some initial).map category)

/-- The groups of categories, and the further names of categories. -/
def ofGroupName? (name : List Char) : Option CharSet :=
  match String.ofList name with
  | "any" => some all
  | "assigned" => some (complement (category .unassigned))
  | "ascii" => some ascii
  | "l" | "letter" => some (categoryGroup 'L')
  | "lc" | "casedletter" =>
    some (unions [category .uppercaseLetter, category .lowercaseLetter, category .titlecaseLetter])
  | "m" | "mark" | "combiningmark" => some (categoryGroup 'M')
  | "n" | "number" => some (categoryGroup 'N')
  | "p" | "punct" | "punctuation" => some (categoryGroup 'P')
  | "s" | "symbol" => some (categoryGroup 'S')
  | "z" | "separator" => some (categoryGroup 'Z')
  | "c" | "isc" | "other" => some (categoryGroup 'C')
  | "cntrl" => some (category .control)
  | "digit" => some (category .decimalNumber)
  | _ => Option.none

/-- The set of a general category, or of a group of them, with a loose name. -/
def ofCategoryName? (name : List Char) : Option CharSet :=
  let text := String.ofList name
  let named := Text.Category.all.find? fun k =>
    k.longName == text || k.abbreviation.toList.map Char.toLower == name
  ofGroupName? name <|> named.map category

/-- The set of a script with a loose name. -/
def ofScriptName? (name : List Char) : Option CharSet :=
  let named := Text.Script.known.find? fun (s, longName) =>
    looseName s.code.toList == name || looseName longName.toList == name
  named.map fun (s, _) => script s

/-- The set of a property with a loose name. -/
def ofPropertyName? (name : List Char) : Option CharSet :=
  (Text.Property.all.find? fun p => p.names.contains (String.ofList name)).map property

/-- The Unicode set with a name. The names of properties come first, but for three that are categories,
too. -/
def ofUnicodeName? (written : List Char) : Option CharSet :=
  let name := looseName written
  let named := if name == ['c', 'f'] || name == ['s', 'c'] || name == ['l', 'c'] then Option.none
    else ofPropertyName? name
  named <|> ofCategoryName? name <|> ofScriptName? name

/-- The Unicode set of the characters for which a property has a value. -/
def ofUnicodeValue? (property value : List Char) : Option CharSet :=
  let value := looseName value
  match String.ofList (looseName property) with
  | "generalcategory" | "gc" | "category" => ofCategoryName? value
  | "script" | "sc" | "scriptextensions" | "scx" => ofScriptName? value
  | _ => Option.none

end ReceiptRules.Regex.CharSet
