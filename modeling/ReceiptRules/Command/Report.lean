import ReceiptRules.Command.LogFilter
import ReceiptRules.Command.Progress

/-!
# Reports of commands

All that can be seen of a command from outside: its exit code, its output, its errors with the log in
front of them, and the files that it leaves.
-/

namespace ReceiptRules

/-- What can be seen of a command. -/
structure Report where
  exitCode : ExitCode
  output : String
  errors : String
  files : FileTree

/-- The variable of the environment that can hold the filter of the log. -/
def LogFilter.variable : String := "RUST_LOG"

/-- The filter of the log: the one in a variable of the environment, else the threshold that the options
give. Parts that cannot be read come as faults. -/
def Options.filter (o : Options) (env : Environment) : List FilterFault × LogFilter :=
  match env.assignments.lookup LogFilter.variable with
  | some text => LogFilter.ofText text
  | none => ([], .ofThreshold o.threshold)

/-- Whether lines of the log name the targets of their events. -/
def Options.withTargets (o : Options) : Bool :=
  o.threshold == some .debug || o.threshold == some .trace

/-- The log of a command. -/
def Invocation.log (i : Invocation) (env : Environment) : String :=
  let (faults, filter) := i.options.filter env
  String.join (faults.map FilterFault.message) ++
    String.join (((i.command.events env i.options).filter filter.admits).map
      (Event.line i.options.withTargets))

/-- Runs a command in an environment. -/
def Invocation.run (i : Invocation) (env : Environment) : Report :=
  let mode := i.options.mode env.terminal
  let conclusion := i.command.conclude env i.options
  { exitCode := conclusion.exitCode
    output := conclusion.output mode
    errors := i.log env ++ conclusion.errorOutput mode
    files := i.command.filesAfter env i.options }

end ReceiptRules
