import ReceiptRules.Calendar.Reader
import ReceiptRules.Condition.SpecError
import ReceiptRules.Text.Quoted

/-!
# Faults of documents

Why a document is no receipt, rule or rule file.
-/

namespace ReceiptRules

/-- A value that was found where another was expected. -/
inductive Found where
  /-- A null, under the name that the kind of document has for it. -/
  | nothing (name : String)
  | bool (b : Bool)
  | integer (n : Int)
  /-- A number that is no integer, as the kind of document writes it. -/
  | float (text : String)
  | string (s : String)
  | array
  | object
  deriving Repr, DecidableEq

def Found.describe : Found → String
  | nothing name => name
  | bool b => "boolean \x60" ++ toString b ++ "\x60"
  | integer n => "integer \x60" ++ toString n ++ "\x60"
  | float text => "floating point \x60" ++ text ++ "\x60"
  | string s => "string " ++ Text.quoted s
  | array => "sequence"
  | object => "map"

/-- Why a document cannot be read as a value of some type. -/
inductive ReadError where
  /-- The text or one of its literals has no value. -/
  | unreadable (e : Json5.Error)
  | wrongType (found : Found) (expected : String)
  | missingField (name : String)
  | duplicateField (name : String)
  /-- A record given as a list has fewer elements than it needs. -/
  | tooFewElements (length : Nat) (record : String) (fields : Nat)
  /-- A record given as a list has more elements than it has fields. -/
  | tooManyElements (length : Nat)
  | badTimestamp (text : String) (e : TimestampError)
  | badCondition (e : SpecError)

namespace ReadError

def message : ReadError → String
  | unreadable e => e.message
  | wrongType found expected => "invalid type: " ++ found.describe ++ ", expected " ++ expected
  | missingField name => "missing field \x60" ++ name ++ "\x60"
  | duplicateField name => "duplicate field \x60" ++ name ++ "\x60"
  | tooFewElements length record fields =>
    "invalid length " ++ toString length ++ ", expected " ++ record ++ " with " ++ toString fields ++
      " elements"
  | tooManyElements length =>
    "invalid length " ++ toString length ++ ", expected fewer elements in array"
  | badTimestamp text e => "invalid timestamp '" ++ text ++ "': " ++ e.message
  | badCondition e => e.message

end ReadError

end ReceiptRules
