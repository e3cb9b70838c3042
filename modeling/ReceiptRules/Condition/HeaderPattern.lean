import ReceiptRules.Regex.Meaning
import ReceiptRules.Regex.Search
import ReceiptRules.Regex.Size

/-!
# Header patterns

The key of a header condition. A key of the form `/pattern/flags` is a regular expression; any other key
is a phrase that may stand anywhere in a line, in any case. Both are compiled, and refused if that takes too
much memory. The text after a match, without separators in front, is a value of the key.
-/

namespace ReceiptRules

/-- Why a key is no header pattern. -/
inductive PatternError where
  | emptyKey
  /-- The key has the form of a regular expression, but the text between the slashes is none. -/
  | malformed (pattern : String)
  /-- The regular expression takes too much memory. -/
  | tooLarge (pattern : String)
  /-- The phrase takes too much memory. -/
  | phraseTooLarge
  deriving Repr, DecidableEq

namespace PatternError

/-- What is wrong with an expression that takes too much memory. -/
def sizeMessage : String :=
  "Compiled regex exceeds size limit of " ++ toString Regex.sizeLimit ++ " bytes."

/-- The text of a fault. Only the faults of regular expressions name the text between the slashes; what is
wrong inside a malformed one is not gone into. -/
def message : PatternError → String
  | emptyKey => "header key must not be empty"
  | malformed pattern => "invalid header regex '" ++ pattern ++ "'"
  | tooLarge pattern => "invalid header regex '" ++ pattern ++ "': " ++ sizeMessage
  | phraseTooLarge => sizeMessage

end PatternError

namespace HeaderPattern

/-- Splits a key of the form `/pattern/flags` at its last slash. The pattern is not empty; the flags
hold no slash. -/
def splitRegex? : List Char → Option (List Char × List Char)
  | '/' :: rest =>
    let flags := (rest.reverse.takeWhile (· != '/')).reverse
    match rest.reverse.dropWhile (· != '/') with
    | _ :: c :: before => some ((c :: before).reverse, flags)
    | _ => none
  | _ => none

/-- An expression, if it does not take too much memory. -/
def bounded (e : PatternError) (r : Regex) : Except PatternError Regex :=
  if r.size ≤ Regex.sizeLimit then .ok r else .error e

/-- The regular expression of a key. -/
def compile (source : String) : Except PatternError Regex :=
  if source.isEmpty then .error .emptyKey
  else
    match splitRegex? source.toList with
    | some (pattern, flags) =>
      match Regex.ofText? (flags.contains 'i') pattern with
      | some r => bounded (.tooLarge (String.ofList pattern)) r
      | none => .error (.malformed (String.ofList pattern))
    | none => bounded .phraseTooLarge (.phrase source.toList)

end HeaderPattern

/-- A key with its regular expression. -/
structure HeaderPattern where
  source : String
  regex : Regex
  compiled : HeaderPattern.compile source = .ok regex

namespace HeaderPattern

/-- Reads a key. -/
def ofKey (source : String) : Except PatternError HeaderPattern :=
  match h : compile source with
  | .ok regex => .ok ⟨source, regex, h⟩
  | .error e => .error e

/-- A pattern is determined by its key. -/
@[ext] theorem ext {p q : HeaderPattern} (h : p.source = q.source) : p = q := by
  obtain ⟨s, r, hr⟩ := p
  obtain ⟨t, q, hq⟩ := q
  obtain rfl : s = t := h
  obtain rfl : r = q := by simpa [hr] using hq
  rfl

instance : DecidableEq HeaderPattern := fun p q =>
  if h : p.source = q.source then .isTrue (ext h) else .isFalse fun e => h (e ▸ rfl)

@[simp] theorem ofKey_source (p : HeaderPattern) : ofKey p.source = .ok p := by
  unfold ofKey
  split
  · next r h => exact congrArg _ (ext rfl)
  · next e h => simp [p.compiled] at h

/-- The characters between a key and its value. -/
def isSeparator (c : Char) : Bool := c == ':' || c == '=' || Text.isBlank c

/-- The value at the start of the text after a key. -/
def valueOf (rest : List Char) : String :=
  String.ofList (Text.trimEnd Text.isBlank (Text.trimStart isSeparator rest))

/-- Whether a line has a match. -/
def isMatch (p : HeaderPattern) (line : String) : Bool := p.regex.isMatch line.toList

/-- The values of the key in a line, one after each match. -/
def valuesAfter (p : HeaderPattern) (line : String) : List String :=
  (p.regex.matchEnds line.toList).map fun c => valueOf c.rest

end HeaderPattern

end ReceiptRules
