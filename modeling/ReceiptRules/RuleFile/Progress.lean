import ReceiptRules.RuleFile.Verification

/-!
# Conditions read from rule files

The conditions that are read, one after the other, while a rule file is loaded or verified. Loading stops
at the first fault of the file, wherever it is; verifying passes over conditions that cannot be read.
-/

namespace ReceiptRules.RuleFile

variable {ν : Type} [Document ν]

/-- The condition of a rule, if it is read before a fault of the rule. -/
def conditionOf? (rule : ν) : Option Condition :=
  (Rule.record.reached? {} "when" rule).bind fun spec => (Condition.read spec).toOption

/-- The conditions that are read from rules until the first fault. -/
def conditionsOf : List ν → List Condition
  | [] => []
  | rule :: rules =>
    (conditionOf? rule).toList ++
      match Rule.read rule with
      | .ok _ => conditionsOf rules
      | .error _ => []

/-- The conditions that are read while the text of a rule file is loaded. -/
def conditionsLoaded (text : String) : List Condition :=
  match (Json5.Node.ofText? text).bind (RuleSet.record.reached? {} "rules") with
  | none => []
  | some rules =>
    match Document.view rules with
    | .ok (.array items) => conditionsOf items
    | _ => []

/-- The conditions that are read while the text of a rule file is verified. -/
def conditionsVerified (text : String) : List Condition :=
  match Json5.valueOfText text with
  | .ok file => (rulesOf file).filterMap fun rule => (rule.get? "when").bind fun spec =>
    (Condition.ofSpec spec).toOption
  | .error _ => []

end ReceiptRules.RuleFile
