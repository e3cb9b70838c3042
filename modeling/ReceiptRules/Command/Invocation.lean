import ReceiptRules.Command.Usage

/-!
# Invocations

A command with the options it is to be run with, and how to read both from the arguments of a command
line. At each level options and the argument of the level may stand in any order. Every option may be
given once at each level; an option that all levels have counts as it is given at the innermost one.
Whether the value of an option is good is found out only when the next thing is read.
-/

namespace ReceiptRules

/-- The options that all commands have. -/
structure Options where
  /-- The path of the rule file. -/
  rulePath : Option String := none
  json : Bool := false
  noJson : Bool := false
  quiet : Bool := false
  /-- The threshold of the log; none if nothing is to be told. -/
  threshold : Option LogLevel := some .warn
  deriving Repr, DecidableEq

/-- A command and its options. -/
structure Invocation where
  command : Command
  options : Options := {}
  deriving Repr, DecidableEq

/-! ## What is given at a level -/

/-- What is given at a level. -/
structure Given where
  options : List (OptionKey × String) := []
  argument : Option String := none
  deriving Repr, DecidableEq

namespace Given

def isEmpty (g : Given) : Bool := g.options.isEmpty && g.argument.isNone

def value? (g : Given) (key : OptionKey) : Option String := g.options.lookup key

def has (g : Given) (key : OptionKey) : Bool := (g.value? key).isSome

/-- Takes an option that is complete. -/
def addOption (g : Given) (key : OptionKey) (value : String) : Except UsageFault Given :=
  if g.has key then .error (.conflict key key)
  else if key.accepts value then .ok { g with options := (key, value) :: g.options }
  else .error (.badValue (UsageFault.written key) value)

/-- Takes the argument of a level. -/
def setArgument (g : Given) (l : Level) (value : String) : Except UsageFault Given :=
  if l.acceptsArgument value then .ok { g with argument := some value }
  else .error (.badValue (l.argument?.getD "") value)

def needArgument (g : Given) (l : Level) : Except UsageFault String :=
  match g.argument with
  | some value => .ok value
  | none => .error (.missingArgument (l.argument?.getD ""))

def needOption (g : Given) (key : OptionKey) : Except UsageFault String :=
  match g.value? key with
  | some value => .ok value
  | none => .error (.missingArgument (UsageFault.written key))

/-- The output cannot be both in JSON and not. -/
def checkConflicts (g : Given) : Except UsageFault Unit :=
  if g.has .json && g.has .noJson then .error (.conflict .noJson .json) else .ok ()

end Given

/-- What was read last at a level and is not yet looked at. -/
inductive Pending where
  | option (key : OptionKey) (value : Option String)
  | argument (value : String)
  deriving Repr, DecidableEq

/-- How far a level is read. -/
structure LevelState where
  given : Given := {}
  pending : Option Pending := none
  /-- Whether two hyphens have ended the options. -/
  trailing : Bool := false
  deriving Repr, DecidableEq

namespace LevelState

/-- Whether an option waits for its value. -/
def isWaiting (s : LevelState) : Bool :=
  match s.pending with
  | some (.option _ none) => true
  | _ => false

/-- Whether the level has got its argument. -/
def hasArgument (s : LevelState) : Bool :=
  match s.pending with
  | some (.argument _) => true
  | _ => s.given.argument.isSome

/-- What is given once the pending part is looked at. -/
def settle (s : LevelState) (l : Level) : Except UsageFault Given :=
  match s.pending with
  | none => .ok s.given
  | some (.option key none) => .error (.missingValue key)
  | some (.option key (some value)) => s.given.addOption key value
  | some (.argument value) => s.given.setArgument l value

/-- Sets a new pending part. -/
def await (s : LevelState) (l : Level) (p : Pending) : Except UsageFault LevelState := do
  return { s with given := ← s.settle l, pending := some p }

/-- Takes an option that is complete at once. -/
def takeOption (s : LevelState) (l : Level) (key : OptionKey) (value : String) :
    Except UsageFault LevelState := do
  let given ← s.settle l
  match key with
  | .help => .error (.helpRequested l)
  | .version => .error .versionRequested
  | key => return { s with given := ← given.addOption key value, pending := none }

/-- Reads an option by its long name, which a value may follow after an equals sign. -/
def readLong (s : LevelState) (l : Level) (text : List Char) : Except UsageFault LevelState :=
  let name := text.takeWhile (· != '=')
  let value? := (text.drop name.length).tail?.map String.ofList
  match l.long? name, value? with
  | none, _ => .error (.unknownArgument (String.ofList ('-' :: '-' :: text)))
  | some key, some value =>
    if key.takesValue then s.takeOption l key value else .error (.unexpectedValue key)
  | some key, none => if key.takesValue then s.await l (.option key none) else s.takeOption l key ""

/-- The value that stands directly behind the letter of an option. -/
def attachedValue : List Char → String
  | '=' :: cs => String.ofList cs
  | cs => String.ofList cs

/-- Reads options by their letters. The first that takes a value has the rest of the letters for it. -/
def readLetters (s : LevelState) (l : Level) : List Char → Except UsageFault LevelState
  | [] => .ok s
  | c :: cs =>
    match l.short? c with
    | none => .error (.unknownArgument (String.ofList ['-', c]))
    | some key =>
      if !key.takesValue then do (← s.takeOption l key "").readLetters l cs
      else if cs.isEmpty then s.await l (.option key none)
      else s.takeOption l key (attachedValue cs)

/-- Reads what is no option. -/
def readArgument (s : LevelState) (l : Level) (text : String) : Except UsageFault LevelState :=
  if l.argument?.isSome && !s.hasArgument then s.await l (.argument text)
  else if l.below.isEmpty || s.trailing && l.isWord text then .error (.unknownArgument text)
  else .error (.unknownCommand text)

/-- Reads what opens no level and is not behind two hyphens. -/
def readPart (s : LevelState) (l : Level) (text : String) : Except UsageFault LevelState :=
  match text.toList, s.pending with
  | ['-', '-'], _ => .ok { s with trailing := true }
  | '-' :: '-' :: cs, _ => s.readLong l cs
  | '-' :: c :: cs, _ => s.readLetters l (c :: cs)
  | _, some (.option key none) => .ok { s with pending := some (.option key (some text)) }
  | _, _ => s.readArgument l text

end LevelState

/-! ## Reading levels -/

namespace Level

/-- The command of a level at which no other is opened. -/
def command (l : Level) (g : Given) : Except UsageFault Command := do
  match l with
  | program | ruleFile => .error (if g.isEmpty then .nothingGiven l else .missingCommand l)
  | check => return .check (.ofArgument (← g.needArgument l))
  | eval =>
    let spec ← g.needArgument l
    return .eval (.ofArgument spec) (.ofArgument (← g.needOption .receipt))
  | classify => return .classify (.ofArgument (← g.needOption .receipt))
  | keys => return .keys
  | completions =>
    let name ← g.needArgument l
    match Shell.ofName? name with
    | some shell => return .completions shell
    | none => .error (.badValue (l.argument?.getD "") name)
  | locate => return .ruleFile .locate
  | print => return .ruleFile .print
  | verify => return .ruleFile .verify
  | create => return .ruleFile (.create (g.has .force))
  | examples => return .ruleFile .examples

/-- The answer to words behind the word for help. -/
def helpOn (l : Level) : List String → UsageFault
  | [] => .helpRequested l
  | word :: words =>
    match l.sublevel? word with
    | some m => m.helpOn words
    | none => if l.isHelpWord word && words.isEmpty then .helpRequested l else .unknownCommand word

/-- Reads a level to the end of the command line. Gives the command and what is given at the levels, the
innermost first. -/
def read (l : Level) (s : LevelState) : List String → Except UsageFault (Command × List Given)
  | [] => do
    let given ← s.settle l
    if l.below.isEmpty then given.checkConflicts
    return (← l.command given, [given])
  | text :: rest => do
    if s.trailing then l.read (← s.readArgument l text) rest
    else if s.isWaiting then l.read (← s.readPart l text) rest
    else if l.isHelpWord text then .error (l.helpOn rest)
    else
      match l.sublevel? text with
      | some m =>
        let (command, inner) ← m.read {} rest
        let given ← s.settle l
        given.checkConflicts
        return (command, inner ++ [given])
      | none => l.read (← s.readPart l text) rest

end Level

/-! ## Reading invocations -/

/-- The options that are given at some levels, the innermost first. -/
def Options.ofGiven (levels : List Given) : Options :=
  let value? := fun key => levels.findSome? (·.value? key)
  let threshold := (value? .logLevel).bind OptionKey.thresholdOf?
  { rulePath := value? .config
    json := (value? .json).isSome
    noJson := (value? .noJson).isSome
    quiet := (value? .quiet).isSome
    threshold := threshold.getD (some .warn) }

/-- Reads the arguments of a command line. -/
def Invocation.ofArguments (arguments : List String) : Except UsageFault Invocation := do
  let (command, levels) ← Level.program.read {} arguments
  return ⟨command, .ofGiven levels⟩

end ReceiptRules
