import ReceiptRules.Command.Basic
import ReceiptRules.Command.Event

/-!
# Levels of the command line

A command line starts at the level of the program. A word that names a command opens the level of that
command. Each level has its options, some of which it has in common with all others, and may have an
argument or further levels below it.
-/

namespace ReceiptRules

/-- An option of the command line. -/
inductive OptionKey where
  | config
  | json
  | noJson
  | quiet
  | logLevel
  | help
  | version
  | receipt
  | force
  deriving Repr, DecidableEq

namespace OptionKey

def long : OptionKey → String
  | config => "config"
  | json => "json"
  | noJson => "no-json"
  | quiet => "quiet"
  | logLevel => "log-level"
  | help => "help"
  | version => "version"
  | receipt => "receipt"
  | force => "force"

def short? : OptionKey → Option Char
  | json => some 'j'
  | quiet => some 'q'
  | help => some 'h'
  | version => some 'V'
  | receipt => some 'r'
  | config | noJson | logLevel | force => none

def takesValue : OptionKey → Bool
  | config | logLevel | receipt => true
  | json | noJson | quiet | help | version | force => false

/-- The threshold that a value of the option for the log stands for. -/
def thresholdOf? (value : String) : Option (Option LogLevel) :=
  if value = "none" then some none else (LogLevel.ofName? value).map some

/-- Whether a value suits an option. -/
def accepts (key : OptionKey) (value : String) : Bool :=
  match key with
  | config => value != ""
  | logLevel => (thresholdOf? value).isSome
  | _ => true

end OptionKey

/-- A level of the command line. -/
inductive Level where
  | program
  | check
  | eval
  | classify
  | keys
  | ruleFile
  | completions
  | locate
  | print
  | verify
  | create
  | examples
  deriving Repr, DecidableEq

namespace Level

/-- The word that opens a level. -/
def name : Level → String
  | program => "rcond"
  | check => "check"
  | eval => "eval"
  | classify => "classify"
  | keys => "keys"
  | ruleFile => "config"
  | completions => "completions"
  | locate => "path"
  | print => "show"
  | verify => "verify"
  | create => "init"
  | examples => "default"

/-- What the command of a level does. -/
def purpose : Level → String
  | program => "Compile and evaluate rule conditions against expense receipts"
  | check => "Validate a condition spec and print its normalized form"
  | eval => "Evaluate a condition spec against a receipt (exit 0 on match, 2 otherwise)"
  | classify => "Apply the rules from the rule file to a receipt"
  | keys => "List the keys a condition spec may use"
  | ruleFile => "Rule file management"
  | completions => "Print shell completions"
  | locate => "Print the rule file path"
  | print => "Print the loaded rules"
  | verify => "Check the rule file and report every problem"
  | create => "Write a rule file with example rules"
  | examples => "Print example rules without writing them"

/-- The levels below a level. -/
def below : Level → List Level
  | program => [check, eval, classify, keys, ruleFile, completions]
  | ruleFile => [locate, print, verify, create, examples]
  | _ => []

/-- The word for help, which stands beside the words for the levels below. -/
def helpWord : String := "help"

/-- The level below that a word opens. -/
def sublevel? (l : Level) (word : String) : Option Level := l.below.find? fun m => m.name == word

/-- Whether a word asks for help at a level. -/
def isHelpWord (l : Level) (word : String) : Bool := !l.below.isEmpty && word == helpWord

/-- Whether a word has a meaning of its own at a level. -/
def isWord (l : Level) (word : String) : Bool := (l.sublevel? word).isSome || l.isHelpWord word

/-- The name of the argument of a level. -/
def argument? : Level → Option String
  | check | eval => some "SPEC"
  | completions => some "SHELL"
  | _ => none

/-- Whether a value suits as the argument of a level. -/
def acceptsArgument (l : Level) (value : String) : Bool :=
  match l with
  | completions => (Shell.ofName? value).isSome
  | _ => true

/-- The options of a level that not all levels have. -/
def ownOptions : Level → List OptionKey
  | program => [.version]
  | eval | classify => [.receipt]
  | create => [.force]
  | _ => []

/-- The options of a level. -/
def options (l : Level) : List OptionKey :=
  [.config, .json, .noJson, .quiet, .logLevel, .help] ++ l.ownOptions

def long? (l : Level) (name : List Char) : Option OptionKey :=
  l.options.find? fun k => k.long.toList == name

def short? (l : Level) (c : Char) : Option OptionKey :=
  l.options.find? fun k => k.short? == some c

end Level

end ReceiptRules
