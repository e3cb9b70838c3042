import ReceiptRules.Command.Basic
import ReceiptRules.RuleFile.Store

/-!
# Failures of commands

How a command can end, and why it cannot do its work. Each way to end has an exit code of its own, by
which scripts can tell what happened.
-/

namespace ReceiptRules

/-- A way for a command to end. -/
inductive ExitCode where
  | success
  | failure
  /-- The condition does not hold, or no rule matches. -/
  | noMatch
  | badSpec
  | badReceipt
  | badRuleFile
  deriving Repr, DecidableEq

def ExitCode.toNat : ExitCode → Nat
  | success => 0
  | failure => 1
  | noMatch => 2
  | badSpec => 3
  | badReceipt => 4
  | badRuleFile => 5

/-- Why a command cannot do its work. -/
inductive Failure where
  | badSpec (e : SpecError)
  | cannotReadSpec (path : String) (e : FileError)
  /-- The receipt from a file, or from the input, cannot be read as one. -/
  | badReceipt (source : ReceiptSource) (e : ReadError)
  | cannotReadReceipt (path : String) (e : FileError)
  | cannotReadInput (e : FileError)
  /-- The rules that the command works with cannot be had. -/
  | badRuleFile (e : RuleFile.StoreError)
  | ruleFileExists (path : String)
  /-- The rule file cannot be found or written. -/
  | cannotStore (e : RuleFile.StoreError)

namespace Failure

def exitCode : Failure → ExitCode
  | badSpec _ | cannotReadSpec .. => .badSpec
  | badReceipt .. | cannotReadReceipt .. | cannotReadInput _ => .badReceipt
  | badRuleFile _ | ruleFileExists _ => .badRuleFile
  | cannotStore _ => .failure

def message : Failure → String
  | badSpec e => e.message
  | cannotReadSpec path e => "Failed to read spec file " ++ path ++ ": " ++ e.message
  | badReceipt source e => "Invalid receipt " ++ source.argument ++ ": " ++ e.message
  | cannotReadReceipt path e => "Failed to read receipt " ++ path ++ ": " ++ e.message
  | cannotReadInput e => "Failed to read stdin: " ++ e.message
  | badRuleFile e => e.message
  | ruleFileExists path => path ++ " already exists (use --force to overwrite)"
  | cannotStore e => e.message

/-- The key that may have been meant in place of an unknown one. -/
def suggestion? : Failure → Option Key
  | badSpec ⟨.unknownKey _ suggestion, _⟩ => suggestion
  | _ => none

/-- The place of a fault in a spec, unless it is the root. -/
def place? : Failure → Option (List Step)
  | badSpec e => if e.place.isEmpty then none else some e.place
  | _ => none

end Failure

end ReceiptRules
