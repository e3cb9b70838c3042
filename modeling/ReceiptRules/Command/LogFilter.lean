import ReceiptRules.Command.Event
import ReceiptRules.Regex.Meaning
import ReceiptRules.Regex.Search
import ReceiptRules.Regex.Size
import ReceiptRules.Text.Pieces

/-!
# Log filters

Which events go to the log. A filter is a list of directives, each of which sets the threshold of all
targets with a given start, and it may have a regular expression that the texts of events must match.
`LogFilter.ofText` reads one, such as `warn,rule_conditions::config=debug/loaded`; parts that cannot be
read are left out and give a warning.
-/

namespace ReceiptRules

/-- The threshold of some targets. -/
structure Directive where
  /-- The start of the targets; without one, all are meant. -/
  start : Option String
  threshold : Option LogLevel
  deriving Repr, DecidableEq

/-- Which events go to the log. -/
structure LogFilter where
  directives : List Directive
  pattern : Option Regex := none

/-- A part of a filter that cannot be read. -/
inductive FilterFault where
  | badSpec (text : String)
  | severalPatterns (text : String)
  | badPattern (text : String)
  deriving Repr, DecidableEq

def FilterFault.message : FilterFault → String
  | badSpec text => "warning: invalid logging spec '" ++ text ++ "', ignoring it\n"
  | severalPatterns text => "warning: invalid logging spec '" ++ text ++ "' (too many '/'s), ignoring it\n"
  | badPattern text => "warning: invalid regex filter - " ++ text ++ ", ignoring it\n"

/-! ## Applying a filter -/

namespace Directive

def appliesTo (d : Directive) (target : String) : Bool :=
  d.start.all fun start => start.toList.isPrefixOf target.toList

/-- How specific a directive is. -/
def weight (d : Directive) : Nat := d.start.elim 0 String.utf8ByteSize

/-- The more specific of two directives; the second if they are equally so. -/
def moreSpecific (d e : Directive) : Directive := if e.weight < d.weight then d else e

/-- The directive that counts for a target: the most specific that applies to it. -/
def forTarget? (target : String) (ds : List Directive) : Option Directive :=
  (ds.filter (·.appliesTo target)).foldl (fun best d => some (best.elim d (·.moreSpecific d))) none

/-- Puts a directive in the place of one with the same start, or at the end. -/
def add (d : Directive) : List Directive → List Directive
  | [] => [d]
  | e :: es => if e.start = d.start then d :: es else e :: add d es

end Directive

namespace LogFilter

/-- The filter with one threshold for all targets. -/
def ofThreshold (threshold : Option LogLevel) : LogFilter := ⟨[⟨none, threshold⟩], none⟩

/-- Whether an event goes to the log. -/
def admits (f : LogFilter) (e : Event) : Bool :=
  ((Directive.forTarget? e.target f.directives).any fun d => e.level.isWithin d.threshold) &&
    f.pattern.all fun r => r.isMatch e.text.toList

/-! ## Reading a filter -/

/-- The threshold that a word stands for, in any case of its letters. -/
def thresholdOf? (word : List Char) : Option (Option LogLevel) :=
  let word := String.ofList (word.map Char.toLower)
  if word = "off" then some none else (LogLevel.ofName? word).map some

/-- Reads a directive: a threshold, the start of targets, or both with a mark between them. -/
def readDirective (text : List Char) : Except FilterFault Directive :=
  match (Text.pieces '=' text).map String.ofList with
  | [start] =>
    match thresholdOf? text with
    | some threshold => .ok ⟨none, threshold⟩
    | none => .ok ⟨some start, some .trace⟩
  | [start, word] =>
    let word := Text.trim word.toList
    if word.isEmpty then .ok ⟨some start, some .trace⟩
    else
      match thresholdOf? word with
      | some threshold => .ok ⟨some start, threshold⟩
      | none => .error (.badSpec (String.ofList word))
  | _ => .error (.badSpec (String.ofList text))

/-- Reads directives with commas between them; gives those that can be read, and the faults of the
others. -/
def readDirectives (text : List Char) : List FilterFault × List Directive :=
  let parts := ((Text.pieces ',' text).map Text.trim).filter (!·.isEmpty)
  parts.foldl (fun (faults, directives) part =>
    match readDirective part with
    | .ok d => (faults, d.add directives)
    | .error e => (faults ++ [e], directives)) ([], [])

/-- The filter with the given directives; without any, only errors are told. -/
def ofDirectives (directives : List Directive) (pattern : Option Regex) : LogFilter :=
  ⟨if directives.isEmpty then [⟨none, some .error⟩] else directives, pattern⟩

/-- Reads a filter: directives, and behind a slash the regular expression. -/
def ofText (text : String) : List FilterFault × LogFilter :=
  match Text.pieces '/' text.toList with
  | [directives] =>
    let (faults, directives) := readDirectives directives
    (faults, ofDirectives directives none)
  | [directives, pattern] =>
    let (faults, directives) := readDirectives directives
    match (Regex.ofText? false pattern).filter (·.size ≤ Regex.sizeLimit) with
    | some r => (faults, ofDirectives directives (some r))
    | none => (faults ++ [.badPattern (String.ofList pattern)], ofDirectives directives none)
  | _ => ([.severalPatterns text], ofDirectives [] none)

end LogFilter

end ReceiptRules
