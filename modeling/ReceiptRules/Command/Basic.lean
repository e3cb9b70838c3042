/-!
# Commands

What the program can be asked to do, and where a command takes its spec and its receipt from.
-/

namespace ReceiptRules

/-- Where a spec comes from. -/
inductive SpecSource where
  | text (spec : String)
  | file (path : String)
  deriving Repr, DecidableEq

/-- An argument that starts with an at sign names a file; any other is the spec itself. -/
def SpecSource.ofArgument (argument : String) : SpecSource :=
  match argument.toList with
  | '@' :: path => file (String.ofList path)
  | _ => text argument

/-- Where a receipt comes from. -/
inductive ReceiptSource where
  | input
  | file (path : String)
  deriving Repr, DecidableEq

namespace ReceiptSource

/-- A single hyphen stands for the input; any other argument names a file. -/
def ofArgument (argument : String) : ReceiptSource := if argument = "-" then input else file argument

/-- The argument that stands for a source. -/
def argument : ReceiptSource → String
  | input => "-"
  | file path => path

@[simp] theorem argument_ofArgument (s : String) : (ofArgument s).argument = s := by
  unfold ofArgument
  split <;> simp_all [argument]

end ReceiptSource

/-- The shells that there are completions for. -/
inductive Shell where
  | bash
  | elvish
  | fish
  | powershell
  | zsh
  deriving Repr, DecidableEq

namespace Shell

def name : Shell → String
  | bash => "bash"
  | elvish => "elvish"
  | fish => "fish"
  | powershell => "powershell"
  | zsh => "zsh"

def all : List Shell := [bash, elvish, fish, powershell, zsh]

theorem mem_all (s : Shell) : s ∈ all := by cases s <;> decide

def ofName? (name : String) : Option Shell := all.find? fun s => s.name == name

end Shell

/-- What can be done with the rule file. -/
inductive RuleFileTask where
  /-- Print its path. -/
  | locate
  /-- Print its rules. -/
  | print
  | verify
  /-- Write one with example rules, over one that is there only if forced. -/
  | create (force : Bool)
  /-- Print the example rules. -/
  | examples
  deriving Repr, DecidableEq

/-- What the program can be asked to do. -/
inductive Command where
  /-- Print a spec in its normal form. -/
  | check (spec : SpecSource)
  /-- Find out whether a condition holds of a receipt. -/
  | eval (spec : SpecSource) (receipt : ReceiptSource)
  /-- Classify a receipt by the rules of the rule file. -/
  | classify (receipt : ReceiptSource)
  /-- List the keys of conditions. -/
  | keys
  | ruleFile (task : RuleFileTask)
  | completions (shell : Shell)
  deriving Repr, DecidableEq

end ReceiptRules
