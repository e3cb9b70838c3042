import ReceiptRules.Command.Failure

/-!
# Events of commands

What a command can tell about its work in the log. Each event has a level, a target, which names the
part of the program that it comes from, and a text.
-/

namespace ReceiptRules

/-- How much an event matters. -/
inductive LogLevel where
  | error
  | warn
  | info
  | debug
  | trace
  deriving Repr, DecidableEq

namespace LogLevel

/-- The rank of a level; the more an event matters, the lower is its rank. -/
def rank : LogLevel → Nat
  | error => 1
  | warn => 2
  | info => 3
  | debug => 4
  | trace => 5

def name : LogLevel → String
  | error => "error"
  | warn => "warn"
  | info => "info"
  | debug => "debug"
  | trace => "trace"

/-- The word for a level in the log; all words have the same width. -/
def word : LogLevel → String
  | error => "ERROR"
  | warn => "WARN "
  | info => "INFO "
  | debug => "DEBUG"
  | trace => "TRACE"

def all : List LogLevel := [error, warn, info, debug, trace]

theorem mem_all (l : LogLevel) : l ∈ all := by cases l <;> decide

def ofName? (name : String) : Option LogLevel := all.find? fun l => l.name == name

/-- Whether events of a level are told at a threshold. Without a threshold none are. -/
def isWithin (l : LogLevel) (threshold : Option LogLevel) : Bool :=
  threshold.any fun t => l.rank ≤ t.rank

end LogLevel

/-- Something that happens while a command works. -/
inductive Event where
  | compiled (c : Condition)
  | evaluated (c : Condition) (holds : Bool)
  | matched (rule : String)
  | noRuleFile (path : String)
  | loaded (rules : Nat) (path : String)
  | noRules
  | failed (f : Failure)

namespace Event

def level : Event → LogLevel
  | compiled _ | matched _ | loaded .. | failed _ => .debug
  | evaluated .. => .trace
  | noRuleFile _ => .info
  | noRules => .warn

def target : Event → String
  | compiled _ => "rule_conditions::conditions::parser"
  | evaluated .. => "rule_conditions::conditions::eval"
  | matched _ => "rule_conditions::rules"
  | noRuleFile _ | loaded .. => "rule_conditions::config"
  | noRules => "rule_conditions::cli::commands"
  | failed _ => "rule_conditions::cli"

def text : Event → String
  | compiled c => "compiled condition: " ++ c.describe
  | evaluated c holds => c.describe ++ " => " ++ toString holds
  | matched rule => "rule '" ++ rule ++ "' matched"
  | noRuleFile path => "no rule file at " ++ path ++ ", using empty config"
  | loaded rules path => "loaded " ++ toString rules ++ " rule(s) from " ++ path
  | noRules => "rule file has no rules, nothing can match"
  | failed f => "command failed with code " ++ toString f.exitCode.toNat ++ ": " ++ f.message

/-- Indents all lines but the first. -/
def indentLines (cs : List Char) : List Char :=
  cs.flatMap fun c => if c = '\n' then ['\n', ' ', ' ', ' ', ' '] else [c]

/-- The line for an event in the log; a text of several lines takes as many. -/
def line (withTarget : Bool) (e : Event) : String :=
  "[" ++ e.level.word ++ (if withTarget then " " ++ e.target else "") ++ "] " ++
    String.ofList (indentLines e.text.toList) ++ "\n"

end Event

end ReceiptRules
