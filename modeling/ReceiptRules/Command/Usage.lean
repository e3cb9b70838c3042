import ReceiptRules.Command.Level

/-!
# Faults of command lines

Why a command line gives no command to run. To ask for help or for the version is one of the reasons;
the others are faults.
-/

namespace ReceiptRules

/-- Why a command line gives no command. -/
inductive UsageFault where
  | helpRequested (level : Level)
  | versionRequested
  /-- Nothing stands at a level that needs a command. -/
  | nothingGiven (level : Level)
  | missingCommand (level : Level)
  | unknownCommand (word : String)
  | unknownArgument (text : String)
  | missingArgument (name : String)
  | missingValue (key : OptionKey)
  | badValue (name value : String)
  /-- An option is given twice, or with another that it excludes. -/
  | conflict (key other : OptionKey)
  | unexpectedValue (key : OptionKey)
  deriving Repr, DecidableEq

namespace UsageFault

def isRequest : UsageFault → Bool
  | helpRequested _ | versionRequested => true
  | _ => false

def exitCode (f : UsageFault) : Nat := if f.isRequest then 0 else 2

/-- An option as it is written. -/
def written (key : OptionKey) : String := "--" ++ key.long

/-- The text on the options and levels below a level. -/
def helpText (l : Level) : String :=
  let levels := l.below.map fun m => "  " ++ m.name ++ " - " ++ m.purpose ++ "\n"
  let options := l.options.map fun k => "  " ++ written k ++ (if k.takesValue then " VALUE" else "") ++ "\n"
  l.purpose ++ "\n\nUsage: " ++ l.name ++ (l.argument?.elim "" (" " ++ ·)) ++ "\n" ++
    (if levels.isEmpty then "" else "\nCommands:\n" ++ String.join levels) ++
    "\nOptions:\n" ++ String.join options

def message : UsageFault → String
  | helpRequested l | nothingGiven l => helpText l
  | versionRequested => "rcond 0.1.0\n"
  | missingCommand l => "error: " ++ l.name ++ " needs a command\n"
  | unknownCommand word => "error: unknown command '" ++ word ++ "'\n"
  | unknownArgument text => "error: unexpected argument '" ++ text ++ "'\n"
  | missingArgument name => "error: " ++ name ++ " is missing\n"
  | missingValue key => "error: " ++ written key ++ " needs a value\n"
  | badValue name value => "error: invalid value '" ++ value ++ "' for " ++ name ++ "\n"
  | conflict key other =>
    if key = other then "error: " ++ written key ++ " is given twice\n"
    else "error: " ++ written key ++ " excludes " ++ written other ++ "\n"
  | unexpectedValue key => "error: " ++ written key ++ " takes no value\n"

end UsageFault

end ReceiptRules
