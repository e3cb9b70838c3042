import ReceiptRules.Command.Failure
import ReceiptRules.Command.Invocation
import ReceiptRules.Receipt.Reader

/-!
# The environment of a command

What a command can see beside its arguments, and what it takes from there: specs, receipts and rules.
-/

namespace ReceiptRules

/-- What a command can see beside its arguments. -/
structure Environment where
  /-- The variables that are set, with their values. -/
  assignments : List (String × String) := []
  input : Except FileError String := .ok ""
  /-- Whether the output goes to a terminal. -/
  terminal : Bool := false
  files : FileTree := {}

namespace Environment

/-- The text of a spec. -/
def specText (env : Environment) : SpecSource → Except Failure String
  | .text spec => .ok spec
  | .file path => (env.files.read path).mapError (.cannotReadSpec path)

/-- The condition that a spec stands for. -/
def condition (env : Environment) (source : SpecSource) : Except Failure Condition := do
  (Condition.ofText (← env.specText source)).mapError .badSpec

/-- The text of a receipt. -/
def receiptText (env : Environment) : ReceiptSource → Except Failure String
  | .input => env.input.mapError .cannotReadInput
  | .file path => (env.files.read path).mapError (.cannotReadReceipt path)

def receipt (env : Environment) (source : ReceiptSource) : Except Failure Receipt := do
  (Receipt.ofText (← env.receiptText source)).mapError (.badReceipt source)

/-- The path of the rule file. -/
def rulePath (env : Environment) (options : Options) : Except RuleFile.StoreError String :=
  RuleFile.path options.rulePath (env.assignments.lookup ·)

/-- The rules of the rule file. -/
def rules (env : Environment) (options : Options) : Except Failure RuleSet :=
  (do RuleFile.load env.files (← env.rulePath options)).mapError .badRuleFile

end Environment

end ReceiptRules
