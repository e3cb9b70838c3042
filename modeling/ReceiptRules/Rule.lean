import ReceiptRules.Condition.Evaluation
import ReceiptRules.Condition.Reader
import ReceiptRules.Reading.Record

/-!
# Rules

A rule is a condition with a name, and may assign a category to the receipts it matches. A rule set
holds rules in order; it classifies a receipt by the rules that match, or by the first of them only.
-/

namespace ReceiptRules

open Document

/-- A named condition. -/
structure Rule where
  name : String
  condition : Condition
  category : Option String := none
  deriving DecidableEq

/-- Rules in order. -/
structure RuleSet where
  rules : List Rule := []
  /-- Whether only the first matching rule counts. -/
  firstMatch : Bool := false
  deriving DecidableEq

namespace Rule

def isMatch (rule : Rule) (r : Receipt) : Bool := rule.condition.holds r

def toJson (rule : Rule) : Json :=
  .object ([("name", .string rule.name), ("when", rule.condition.toSpec)] ++
    match rule.category with
    | some category => [("category", .string category)]
    | none => [])

/-- Whether two rules are the same in all their parts. -/
def same (a b : Rule) : Bool :=
  a.name == b.name && a.condition.same b.condition && a.category == b.category

end Rule

namespace RuleSet

/-- The rules that a receipt is classified by, in their order. -/
def classify (s : RuleSet) (r : Receipt) : List Rule :=
  let matching := s.rules.filter (·.isMatch r)
  if s.firstMatch then matching.take 1 else matching

/-- The category of the first of the rules that a receipt is classified by, if any assigns one. -/
def categoryFor (s : RuleSet) (r : Receipt) : Option String :=
  (s.classify r).findSome? Rule.category

def toJson (s : RuleSet) : Json :=
  .object [("rules", .array (s.rules.map Rule.toJson)),
    ("settings", .object [("firstMatch", .bool s.firstMatch)])]

end RuleSet

/-! ## Reading rules -/

variable {ν : Type} [Document ν]

/-- Reads a condition from its spec. -/
def Condition.read (v : ν) : Except ReadError Condition := do
  (Condition.ofSpec (← readJson v)).mapError .badCondition

/-- The fields of a rule that are read. -/
structure Rule.Draft where
  name : Option String := none
  condition : Option Condition := none
  category : Option String := none

namespace Rule

def record : Record ν Draft where
  name := "struct Rule"
  fields :=
    [⟨"name", true, fun v d => do return { d with name := some (← readString v) }⟩,
     ⟨"when", true, fun v d => do return { d with condition := some (← Condition.read v) }⟩,
     ⟨"category", false, fun v d => do return { d with category := ← readOptional readString v }⟩]

/-- The rule that a draft makes once the fields it needs are there. -/
def ofDraft (d : Draft) : Except ReadError Rule :=
  match d.name, d.condition with
  | some name, some condition => .ok ⟨name, condition, d.category⟩
  | none, _ => .error (.missingField "name")
  | _, none => .error (.missingField "when")

def read (v : ν) : Except ReadError Rule := do ofDraft (← record.read {} v)

end Rule

namespace RuleSet

/-- The settings of a rule set. -/
def settingsRecord : Record ν Bool where
  name := "struct Settings"
  fields := [⟨"firstMatch", false, fun v _ => readBool v⟩]

/-- Reads the settings: whether only the first matching rule counts, which is not so by default. -/
def readSettings (v : ν) : Except ReadError Bool := settingsRecord.read false v

def record : Record ν RuleSet where
  name := "struct Config"
  fields :=
    [⟨"rules", false, fun v s => do return { s with rules := ← readList Rule.read v }⟩,
     ⟨"settings", false, fun v s => do return { s with firstMatch := ← readSettings v }⟩]

def read (v : ν) : Except ReadError RuleSet := record.read {} v

/-- Reads a rule set from JSON5 text. -/
def ofText (text : String) : Except ReadError RuleSet :=
  match Json5.Node.ofText? text with
  | some node => read node
  | none => .error (.unreadable .malformedText)

end RuleSet

/-- Reads a rule from JSON5 text. -/
def Rule.ofText (text : String) : Except ReadError Rule :=
  match Json5.Node.ofText? text with
  | some node => Rule.read node
  | none => .error (.unreadable .malformedText)

end ReceiptRules
