import ReceiptRules.Json.Writer
import ReceiptRules.Rule

/-!
# Written rule files

The text of a rule file, and the rules that a new rule file starts with: as they are written down, and as
they are read.
-/

namespace ReceiptRules.RuleFile

/-- The text of a rule file, on indented lines. -/
def text (s : RuleSet) : String := s.toJson.pretty

/-! ## The rules of a new rule file -/

/-- A rule that is written down, with the text of its spec. -/
structure WrittenRule where
  name : String
  spec : String
  category : Option String := none

/-- Reads the spec of a rule that is written down. -/
def WrittenRule.read (w : WrittenRule) : Except SpecError Rule := do
  return { name := w.name, condition := ← Condition.ofText w.spec, category := w.category }

/-- The text of a spec for all of some members, each on a line of its own. -/
def conjunctionText (members : List String) : String :=
  "\x7b \"$and\": [\n                " ++ ",\n                ".intercalate members ++
    "\n            ] \x7d"

/-- Four rules that show what conditions can say, as they are written down. -/
def writtenExamples : List WrittenRule :=
  [{ name := "groceries"
     spec := "\x7b \"placeTypeCategory\": \"food\" \x7d"
     category := some "groceries" },
   { name := "large card payment"
     spec := conjunctionText
       ["\x7b \"amount\": [\">\", 100] \x7d",
        "\x7b \"currency\": \"EUR\" \x7d",
        "\x7b \"$or\": [\x7b \"paymentMethod\": \"DEBIT\" \x7d, " ++
          "\x7b \"paymentMethod\": \"CREDIT\" \x7d] \x7d"] },
   { name := "weekend evening"
     spec := conjunctionText
       ["\x7b \"date\": [\"weekday\", \">=\", \"sat\"] \x7d",
        "\x7b \"time\": [\"after\", \"18:00\"] \x7d"]
     category := some "leisure" },
   { name := "not a bakery"
     spec := "\x7b \"$not\": \x7b \"header\": [\"bakery\", true] \x7d \x7d" }]

/-- Reads the example rules from what is written down. -/
def readExamples : Except SpecError RuleSet := do
  return { rules := ← writtenExamples.mapM WrittenRule.read }

/-- The phrase that bakeries have in their header. -/
def bakery : HeaderPattern := ⟨"bakery", .phrase "bakery".toList, by rfl⟩

/-- The example rules. -/
def exampleRules : RuleSet where
  rules :=
    [{ name := "groceries"
       condition := .leaf (.placeTypeCategory "food")
       category := some "groceries" },
     { name := "large card payment"
       condition := .combination .all
         [.leaf (.amount .greater 100),
          .leaf (.currency "EUR"),
          .combination .any [.leaf (.paymentMethod "DEBIT"), .leaf (.paymentMethod "CREDIT")]] },
     { name := "weekend evening"
       condition := .combination .all
         [.leaf (.date .weekday .greaterOrEqual 6), .leaf (.time ⟨18, 0, none⟩ .after)]
       category := some "leisure" },
     { name := "not a bakery"
       condition := .not (.leaf (.header bakery (.present true))) }]

end ReceiptRules.RuleFile
