import ReceiptRules.Command.Report

/-!
# The program

The command line program: it takes a picture of the files that a command may look at, runs the command
on it, and writes down what the command has changed.
-/

namespace ReceiptRules.Program

/-- What is at an absolute path on the disk. -/
def entry? (path : String) : IO (Option FileEntry) := do
  if ← ((← IO.currentDir) / path).isDir then return some .directory
  try
    return some (.file (← IO.FS.readFile path))
  catch
    | .permissionDenied .. => return some (.unreadable .permissionDenied)
    | .userError _ => return some (.unreadable .notText)
    | _ => return none

/-- The path to a place from the root of the disk. -/
def placeText (place : List String) : String := String.join (place.map ("/" ++ ·))

/-- Adds what is on the disk at the places that a path passes. -/
def addPath (tree : FileTree) (path : String) : IO FileTree := do
  let p := FilePath.ofText path
  let mut place := if p.absolute then [] else tree.workingDirectory
  let mut tree := tree
  for name in p.names do
    if name = ".." then place := place.dropLast
    else if name ≠ "." then place := place ++ [name]
    if let some entry ← entry? (placeText place) then tree := tree.insert place entry
  return tree

/-- The paths that an invocation may look at. -/
def paths (i : Invocation) (env : Environment) : List String :=
  let spec := fun
    | SpecSource.file path => [path]
    | .text _ => []
  let receipt := fun
    | ReceiptSource.file path => [path]
    | .input => []
  (env.rulePath i.options).toOption.toList ++
    match i.command with
    | .check s => spec s
    | .eval s r => spec s ++ receipt r
    | .classify r => receipt r
    | .keys | .ruleFile _ | .completions _ => []

/-- Whether a command reads the input. -/
def readsInput : Command → Bool
  | .eval _ .input | .classify .input => true
  | _ => false

/-- The rest of a stream. -/
partial def readToEnd (stream : IO.FS.Stream) (before : String) : IO String := do
  let line ← stream.getLine
  if line.isEmpty then return before else readToEnd stream (before ++ line)

/-- The text on the input. -/
def input : IO (Except FileError String) := do
  try
    return .ok (← readToEnd (← IO.getStdin) "")
  catch _ => return .error .notText

/-- Writes down the entries of a tree that another does not have. -/
def writeChanges (old new : FileTree) : IO Unit := do
  let changes := (new.entries.filter fun e => !old.entries.contains e).mergeSort fun d e =>
    d.1.length ≤ e.1.length
  for (place, entry) in changes do
    match entry with
    | .directory => IO.FS.createDirAll (placeText place)
    | .file text => IO.FS.writeFile (placeText place) text
    | .unreadable _ => pure ()

/-- The environment of an invocation. -/
def environment (i : Invocation) : IO Environment := do
  let mut assignments := []
  for name in [RuleFile.pathVariable, "HOME", LogFilter.variable] do
    if let some value ← IO.getEnv name then assignments := (name, value) :: assignments
  let directory := (FilePath.ofText (← IO.currentDir).toString).names
  let mut env : Environment :=
    { assignments := assignments
      input := ← if readsInput i.command then input else pure (.ok "")
      terminal := ← (← IO.getStdout).isTty
      files := { workingDirectory := directory } }
  for path in paths i env do
    env := { env with files := ← addPath env.files path }
  return env

end ReceiptRules.Program

open ReceiptRules in
def main (arguments : List String) : IO UInt32 := do
  match Invocation.ofArguments arguments with
  | .error fault =>
    if fault.isRequest then IO.print fault.message else IO.eprint fault.message
    return fault.exitCode.toUInt32
  | .ok invocation =>
    let env ← Program.environment invocation
    let report := invocation.run env
    Program.writeChanges env.files report.files
    IO.eprint report.errors
    IO.print report.output
    return report.exitCode.toNat.toUInt32
