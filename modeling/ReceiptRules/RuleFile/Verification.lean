import ReceiptRules.Rule

/-!
# Verifying rule files

`RuleFile.verify` lists all problems of a rule file, rule by rule, where reading one stops at the first.
Some complaints are about rules that can be read nonetheless: an empty name, and a name that another
rule has already.
-/

namespace ReceiptRules.RuleFile

/-- A problem of a rule file. Rules are given by their index. -/
inductive Complaint where
  | rulesNotList
  | emptyName (rule : Nat)
  | duplicateName (rule : Nat) (name : String)
  | missingName (rule : Nat)
  | badCondition (rule : Nat) (e : SpecError)
  | missingCondition (rule : Nat)
  | badCategory (rule : Nat)
  | badSettings (e : ReadError)

namespace Complaint

/-- The place of a rule. -/
def rulePlace (rule : Nat) : String := "rules[" ++ toString rule ++ "]"

def message : Complaint → String
  | rulesNotList => "rules: must be an array"
  | emptyName rule => rulePlace rule ++ ": 'name' must not be empty"
  | duplicateName rule name => rulePlace rule ++ ": duplicate rule name '" ++ name ++ "'"
  | missingName rule => rulePlace rule ++ ": missing 'name'"
  | badCondition rule e =>
    rulePlace rule ++ ".when" ++ (if e.place.isEmpty then "" else "." ++ placeText e.place) ++ ": " ++
      e.fault.message
  | missingCondition rule => rulePlace rule ++ ": missing 'when'"
  | badCategory rule => rulePlace rule ++ ": 'category' must be a string"
  | badSettings e => "settings: " ++ e.message

end Complaint

/-- The name of a rule, if it has one. -/
def nameOf? (rule : Json) : Option String := (rule.get? "name").bind Json.string?

/-- The complaint about the name of a rule, given the names of the rules before it. -/
def nameComplaint (index : Nat) (before : List String) (rule : Json) : List Complaint :=
  match nameOf? rule with
  | none => [.missingName index]
  | some name =>
    if name = "" then [.emptyName index]
    else if before.contains name then [.duplicateName index name]
    else []

/-- The complaint about the condition of a rule. -/
def conditionComplaint (index : Nat) (rule : Json) : List Complaint :=
  match rule.get? "when" with
  | none => [.missingCondition index]
  | some spec =>
    match Condition.ofSpec spec with
    | .ok _ => []
    | .error e => [.badCondition index e]

/-- The complaint about the category of a rule. -/
def categoryComplaint (index : Nat) (rule : Json) : List Complaint :=
  match rule.get? "category" with
  | none | some (.string _) => []
  | some _ => [.badCategory index]

/-- The complaints about rules, of which the first has the given index; `before` holds the names of the
rules before it. -/
def ruleComplaints (index : Nat) (before : List String) : List Json → List Complaint
  | [] => []
  | rule :: rules =>
    nameComplaint index before rule ++ conditionComplaint index rule ++ categoryComplaint index rule ++
      ruleComplaints (index + 1) ((nameOf? rule).toList ++ before) rules

/-- The list of rules in a rule file; a value of another type holds none. -/
def rulesOf (file : Json) : List Json :=
  match file.get? "rules" with
  | some (.array rules) => rules
  | _ => []

/-- The complaint about rules that are no list. -/
def listComplaint (file : Json) : List Complaint :=
  match file.get? "rules" with
  | none | some (.array _) => []
  | some _ => [.rulesNotList]

/-- The complaint about the settings. -/
def settingsComplaint (file : Json) : List Complaint :=
  match file.get? "settings" with
  | none => []
  | some settings =>
    match RuleSet.readSettings settings with
    | .ok _ => []
    | .error e => [.badSettings e]

/-- The complaints about the value of a rule file. -/
def complaints (file : Json) : List Complaint :=
  listComplaint file ++ ruleComplaints 0 [] (rulesOf file) ++ settingsComplaint file

/-- The complaints about the text of a rule file; a text that has no value cannot be verified. -/
def verify (text : String) : Except Json5.Error (List Complaint) :=
  (Json5.valueOfText text).map complaints

end ReceiptRules.RuleFile
