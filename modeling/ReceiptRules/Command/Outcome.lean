import ReceiptRules.Command.Completions
import ReceiptRules.Command.Environment

/-!
# Outcomes of commands

What commands find out, and how it is written: as JSON on one line, in an envelope that tells results
from errors, or as text. A quiet command writes nothing unless there is a problem.
-/

namespace ReceiptRules

/-- How a command writes what it finds out. -/
inductive OutputMode where
  | text
  | json
  | quiet
  deriving Repr, DecidableEq

/-- The mode that options ask for. To be quiet counts most, then JSON; without options, text is for
terminals only. -/
def Options.mode (o : Options) (terminal : Bool) : OutputMode :=
  if o.quiet then .quiet
  else if o.json then .json
  else if o.noJson || terminal then .text
  else .json

/-- What a command finds out. -/
inductive Outcome where
  | checked (c : Condition)
  | evaluated (c : Condition) (holds : Bool)
  | classified (matched : List Rule) (category : Option String)
  | keys
  | located (path : String)
  | rules (s : RuleSet)
  | verified (path : String) (complaints : List RuleFile.Complaint)
  | written (path : String)
  | completions (shell : Shell)

namespace Outcome

/-- The way a command ends that has come to an outcome. -/
def exitCode : Outcome → ExitCode
  | evaluated _ holds => if holds then .success else .noMatch
  | classified matched _ => if matched.isEmpty then .noMatch else .success
  | verified _ complaints => if complaints.isEmpty then .success else .badRuleFile
  | _ => .success

/-- A matched rule as part of a result. -/
def ruleResult (r : Rule) : Json :=
  .object (("name", .string r.name) :: optionalEntry "category" .string r.category)

/-- The outcome as a JSON value; some outcomes are texts in any mode but the quiet one. -/
def result? : Outcome → Option Json
  | checked c =>
    some (.object [("valid", .bool true), ("condition", .string c.describe), ("spec", c.toSpec)])
  | evaluated c holds => some (.object [("matched", .bool holds), ("condition", .string c.describe)])
  | classified matched category =>
    some (.object (("matched", .array (matched.map ruleResult)) ::
      optionalEntry "category" .string category))
  | keys => some (.array (Key.known.map fun k => .string k.name))
  | verified path complaints =>
    some (.object [("path", .string path), ("valid", .bool complaints.isEmpty),
      ("errors", .array (complaints.map fun c => .string c.message))])
  | located _ | rules _ | written _ | completions _ => none

/-- The line for a matched rule. -/
def ruleLine (r : Rule) : String :=
  r.name ++
    match r.category with
    | some category => " -> " ++ category
    | none => ""

/-- The lines of a text, each with its end. -/
def lines (ls : List String) : String := String.join (ls.map (· ++ "\n"))

/-- The outcome as text. -/
def text : Outcome → String
  | checked c => lines ["✓ " ++ c.describe, c.toSpec.pretty]
  | evaluated _ holds => lines [toString holds]
  | classified matched _ => lines (matched.map ruleLine)
  | keys => lines (Key.known.map Key.name)
  | located path => lines [path]
  | rules s => lines [RuleFile.text s]
  | verified path [] => lines ["✓ Configuration is valid: " ++ path]
  | verified path complaints =>
    lines (["✗ Configuration has " ++ toString complaints.length ++ " error(s): " ++ path, ""] ++
      complaints.map fun c => "  - " ++ c.message)
  | written path => lines ["Wrote example rules to " ++ path]
  | completions shell => shell.completions

/-- Whether an outcome is written also by a quiet command. -/
def isUrgent : Outcome → Bool
  | verified _ complaints => !complaints.isEmpty
  | completions _ => true
  | _ => false

end Outcome

/-! ## Envelopes -/

/-- The line for a JSON value in its envelope, under the key for results or for errors. -/
def envelope (key : String) (value : Json) : String :=
  (Json.object [("jsonrpc", .string "2.0"), (key, value), ("id", .null)]).compact ++ "\n"

namespace Failure

/-- The number of an error, from a range that is free for programs to use. -/
def errorNumber (f : Failure) : Int := -32000 - f.exitCode.toNat

/-- What else is known of a failure. -/
def details (f : Failure) : List (String × Json) :=
  optionalEntry "suggestions" (fun k => .array [.string k.name]) f.suggestion? ++
    optionalEntry "details" (fun place => .string (placeText place)) f.place?

/-- A failure as a JSON value. -/
def error (f : Failure) : Json :=
  .object ([("code", .ofInt f.errorNumber), ("message", .string f.message)] ++
    if f.details.isEmpty then [] else [("data", .object f.details)])

/-- A failure as text. -/
def text (f : Failure) : String :=
  Outcome.lines (("error: " ++ f.message) ::
    f.suggestion?.toList.map fun k => "  did you mean: " ++ k.name)

end Failure

/-! ## Output -/

/-- What a command has come to: an outcome or a failure. -/
abbrev Conclusion := Except Failure Outcome

namespace Conclusion

def exitCode : Conclusion → ExitCode
  | .ok o => o.exitCode
  | .error f => f.exitCode

/-- What goes to the output. -/
def output (mode : OutputMode) : Conclusion → String
  | .ok o =>
    match mode, o.result? with
    | .json, some result => envelope "result" result
    | .quiet, _ => if o.isUrgent then o.text else ""
    | _, _ => o.text
  | .error f =>
    match mode with
    | .json => envelope "error" f.error
    | _ => ""

/-- What goes to the place for errors; in JSON they are part of the output. -/
def errorOutput (mode : OutputMode) : Conclusion → String
  | .error f =>
    match mode with
    | .json => ""
    | _ => f.text
  | .ok _ => ""

end Conclusion

end ReceiptRules
