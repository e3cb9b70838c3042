import ReceiptRules.Command.Outcome

/-!
# Running commands

`Command.run` says what a command comes to in an environment, and which files there are afterwards. The
parts that a command needs are read in a fixed order, so that of several faults the first counts: the spec
or the rules come before the receipt.
-/

namespace ReceiptRules.Command

/-- Writes the example rules. -/
def create (env : Environment) (options : Options) (force : Bool) : Conclusion × FileTree :=
  match env.rulePath options with
  | .error e => (.error (.cannotStore e), env.files)
  | .ok path =>
    if env.files.contains path && !force then (.error (.ruleFileExists path), env.files)
    else
      match RuleFile.save env.files path RuleFile.exampleRules with
      | (files, .ok ()) => (.ok (.written path), files)
      | (files, .error e) => (.error (.cannotStore e), files)

/-- What a command comes to that leaves all files as they are. -/
def conclude (env : Environment) (options : Options) : Command → Conclusion
  | check spec => return .checked (← env.condition spec)
  | eval spec receipt => do
    let c ← env.condition spec
    let r ← env.receipt receipt
    return .evaluated c (c.holds r)
  | classify receipt => do
    let s ← env.rules options
    let r ← env.receipt receipt
    return .classified (s.classify r) (s.categoryFor r)
  | keys => return .keys
  | ruleFile .locate => return .located (← (env.rulePath options).mapError .cannotStore)
  | ruleFile .print => return .rules (← env.rules options)
  | ruleFile .verify => do
    let path ← (env.rulePath options).mapError .cannotStore
    let complaints ← (RuleFile.verifyAt env.files path).mapError .badRuleFile
    return .verified path complaints
  | ruleFile (.create force) => (create env options force).1
  | ruleFile .examples => return .rules RuleFile.exampleRules
  | completions shell => return .completions shell

/-- The files after a command. -/
def filesAfter (env : Environment) (options : Options) : Command → FileTree
  | ruleFile (.create force) => (create env options force).2
  | _ => env.files

/-- Only a command that writes the example rules changes files. -/
theorem filesAfter_eq_files (env : Environment) (options : Options) {command : Command}
    (h : ∀ force, command ≠ ruleFile (.create force)) :
    command.filesAfter env options = env.files := by
  unfold filesAfter
  split
  · next force => exact absurd rfl (h force)
  · rfl

end ReceiptRules.Command
