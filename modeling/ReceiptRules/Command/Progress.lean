import ReceiptRules.Command.Execution
import ReceiptRules.RuleFile.Progress

/-!
# What commands tell

The events of a command, in the order in which they happen.
-/

namespace ReceiptRules

/-- The events of a classification; those of rules that are not looked at any more are left out. -/
def RuleSet.events (s : RuleSet) (r : Receipt) : List Event := go s.rules
where
  go : List Rule → List Event
    | [] => []
    | rule :: rules =>
      if rule.isMatch r then
        [.evaluated rule.condition true, .matched rule.name] ++ if s.firstMatch then [] else go rules
      else .evaluated rule.condition false :: go rules

/-- The events of the example rules, which are compiled before they are written. -/
def RuleFile.exampleEvents : List Event := exampleRules.rules.map fun r => .compiled r.condition

namespace Environment

def specEvents (env : Environment) (source : SpecSource) : List Event :=
  match env.condition source with
  | .ok c => [.compiled c]
  | .error _ => []

def loadEvents (env : Environment) (options : Options) : List Event :=
  match env.rulePath options with
  | .error _ => []
  | .ok path =>
    if env.files.contains path then
      match env.files.read path with
      | .error _ => []
      | .ok text =>
        (RuleFile.conditionsLoaded text).map .compiled ++
          match RuleSet.ofText text with
          | .ok s => [.loaded s.rules.length path]
          | .error _ => []
    else [.noRuleFile path]

/-- The events of a classification by rules. For an output in JSON the receipt is classified twice: once
for the rules and once for the category. -/
def classifyEvents (env : Environment) (s : RuleSet) (source : ReceiptSource) (mode : OutputMode) :
    List Event :=
  (if s.rules.isEmpty then [.noRules] else []) ++
    match env.receipt source with
    | .ok r => s.events r ++ if mode = .json then s.events r else []
    | .error _ => []

def verifyEvents (env : Environment) (options : Options) : List Event :=
  match env.rulePath options with
  | .error _ => []
  | .ok path =>
    match env.files.read path with
    | .ok text => (RuleFile.conditionsVerified text).map .compiled
    | .error _ => []

def createEvents (env : Environment) (options : Options) (force : Bool) : List Event :=
  match env.rulePath options with
  | .error _ => []
  | .ok path => if env.files.contains path && !force then [] else RuleFile.exampleEvents

end Environment

namespace Command

/-- The events while a command works. -/
def workEvents (env : Environment) (options : Options) : Command → List Event
  | check spec => env.specEvents spec
  | eval spec receipt =>
    env.specEvents spec ++
      match env.condition spec, env.receipt receipt with
      | .ok c, .ok r => [.evaluated c (c.holds r)]
      | _, _ => []
  | classify receipt =>
    env.loadEvents options ++
      match env.rules options with
      | .ok s => env.classifyEvents s receipt (options.mode env.terminal)
      | .error _ => []
  | ruleFile .print => env.loadEvents options
  | ruleFile .verify => env.verifyEvents options
  | ruleFile (.create force) => env.createEvents options force
  | ruleFile .examples => RuleFile.exampleEvents
  | keys | ruleFile .locate | completions _ => []

/-- The events of a command up to its end. -/
def events (env : Environment) (options : Options) (command : Command) : List Event :=
  command.workEvents env options ++
    match command.conclude env options with
    | .ok _ => []
    | .error f => [.failed f]

end Command

end ReceiptRules
