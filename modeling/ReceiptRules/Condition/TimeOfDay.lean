import ReceiptRules.Calendar.Timestamp
import ReceiptRules.Text.Blank
import ReceiptRules.Text.Pieces

/-!
# Times of day in conditions

A time with or without seconds, and how the time of a receipt relates to it. Without seconds whole
minutes are compared.
-/

namespace ReceiptRules

/-- A time of day in a condition. -/
structure TimeOfDay where
  hour : Nat
  minute : Nat
  second : Option Nat
  deriving Repr, DecidableEq

/-- How a time relates to another. -/
inductive Relation where
  | before
  | after
  | exactly
  deriving Repr, DecidableEq

namespace Relation

def ofName? : String → Option Relation
  | "before" => some before
  | "after" => some after
  | "at" => some exactly
  | _ => none

def name : Relation → String
  | before => "before"
  | after => "after"
  | exactly => "at"

/-- Whether the relation holds of two times in the given order. -/
def accepts : Relation → Ordering → Bool
  | before, o => o == .lt
  | after, o => o == .gt
  | exactly, o => o == .eq

@[simp] theorem ofName?_name (r : Relation) : ofName? r.name = some r := by
  cases r <;> rfl

end Relation

namespace TimeOfDay

/-- The order of a time to the time of a condition, which is the other way round than the arguments. -/
def compare (t : TimeOfDay) (actual : ClockTime) : Ordering :=
  let byMinute := (Ord.compare actual.hour t.hour).then (Ord.compare actual.minute t.minute)
  match t.second with
  | some second => byMinute.then (Ord.compare actual.second second)
  | none => byMinute

/-- Whether a time is in a relation to the time of a condition. -/
def holds (t : TimeOfDay) (r : Relation) (actual : ClockTime) : Bool :=
  r.accepts (t.compare actual)

/-- The written form, with two digits for each number. -/
def text (t : TimeOfDay) : String :=
  let seconds := match t.second with
    | some second => ':' :: padded 2 second
    | none => []
  String.ofList (padded 2 t.hour ++ ':' :: padded 2 t.minute ++ seconds)

/-- The number that one or two digits stand for, if there are at least `least` of them. -/
def readPart? (least : Nat) (digits : List Char) : Option Nat :=
  if least ≤ digits.length && digits.length ≤ 2 && digits.all Char.isDigit then
    some (digits.foldl (fun n d => 10 * n + (d.toNat - '0'.toNat)) 0)
  else none

/-- What makes a time of a condition a time of the clock. -/
def IsValid (t : TimeOfDay) : Prop :=
  t.hour < 24 ∧ t.minute < 60 ∧ ∀ second ∈ t.second, second < 60

instance (t : TimeOfDay) : Decidable t.IsValid := inferInstanceAs (Decidable (_ ∧ _))

/-- Reads a time: hours of one or two digits, minutes and perhaps seconds of two, between colons. -/
def ofText? (s : String) : Option TimeOfDay := do
  let t ← match Text.pieces ':' (Text.trim s.toList) with
    | [hour, minute] => pure ⟨← readPart? 1 hour, ← readPart? 2 minute, none⟩
    | [hour, minute, second] =>
      pure ⟨← readPart? 1 hour, ← readPart? 2 minute, some (← readPart? 2 second)⟩
    | _ => none
  if t.IsValid then some t else none

end TimeOfDay

end ReceiptRules
