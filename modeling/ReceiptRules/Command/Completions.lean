import ReceiptRules.Command.Level

/-!
# Completions

A line for each shell that makes it complete the words for commands.
-/

namespace ReceiptRules.Shell

/-- The words for commands, with the word for help. -/
def words : List String := Level.program.below.map Level.name ++ [Level.helpWord]

/-- What a shell is to run to complete the words. -/
def completions (s : Shell) : String :=
  let name := Level.program.name
  let listed := " ".intercalate words
  match s with
  | bash => "complete -W '" ++ listed ++ "' " ++ name ++ "\n"
  | elvish =>
    "set edit:completion:arg-completer[" ++ name ++ "] = \x7b|@args| put " ++ listed ++ " \x7d\n"
  | fish => "complete -c " ++ name ++ " -f -a '" ++ listed ++ "'\n"
  | powershell =>
    "Register-ArgumentCompleter -Native -CommandName " ++ name ++ " -ScriptBlock \x7b -split '" ++
      listed ++ "' \x7d\n"
  | zsh => "#compdef " ++ name ++ "\n_arguments '1:command:(" ++ listed ++ ")'\n"

end ReceiptRules.Shell
