import ReceiptRules.Calendar.Date
import ReceiptRules.Text.LetterCase

/-!
# Components of dates

The numbers that a condition can take from the date of a receipt, with the values each can have and
the names of weekdays and months.
-/

namespace ReceiptRules

/-- A component of a date. -/
inductive DateComponent where
  | weekday
  | day
  | month
  | year
  | week
  | dayOfYear
  deriving Repr, DecidableEq

namespace DateComponent

def ofName? : String → Option DateComponent
  | "weekday" => some weekday
  | "day" => some day
  | "month" => some month
  | "year" => some year
  | "week" => some week
  | "dayOfYear" => some dayOfYear
  | _ => none

def name : DateComponent → String
  | weekday => "weekday"
  | day => "day"
  | month => "month"
  | year => "year"
  | week => "week"
  | dayOfYear => "dayOfYear"

@[simp] theorem ofName?_name (c : DateComponent) : ofName? c.name = some c := by
  cases c <;> rfl

/-- The least and the greatest value of a component; years have neither. -/
def range? : DateComponent → Option (Int × Int)
  | weekday => some (1, 7)
  | day => some (1, 31)
  | month => some (1, 12)
  | year => none
  | week => some (1, 53)
  | dayOfYear => some (1, 366)

/-- Whether a value is one that the component can have. -/
def InRange (c : DateComponent) (n : Int) : Prop := ∀ r ∈ c.range?, r.1 ≤ n ∧ n ≤ r.2

instance (c : DateComponent) (n : Int) : Decidable (c.InRange n) :=
  inferInstanceAs (Decidable (∀ r ∈ c.range?, r.1 ≤ n ∧ n ≤ r.2))

/-- The value of a component of a date. -/
def extract (c : DateComponent) (d : Date) : Int :=
  match c with
  | weekday => d.weekday
  | day => d.day
  | month => d.month
  | year => d.year
  | week => d.isoWeek
  | dayOfYear => d.dayOfYear

/-- The number of a weekday, from Monday, 1, by its name in lower case. -/
def weekdayOfName? : String → Option Int
  | "mon" | "monday" => some 1
  | "tue" | "tuesday" => some 2
  | "wed" | "wednesday" => some 3
  | "thu" | "thursday" => some 4
  | "fri" | "friday" => some 5
  | "sat" | "saturday" => some 6
  | "sun" | "sunday" => some 7
  | _ => none

/-- The number of a month by its name in lower case. -/
def monthOfName? : String → Option Int
  | "jan" | "january" => some 1
  | "feb" | "february" => some 2
  | "mar" | "march" => some 3
  | "apr" | "april" => some 4
  | "may" => some 5
  | "jun" | "june" => some 6
  | "jul" | "july" => some 7
  | "aug" | "august" => some 8
  | "sep" | "sept" | "september" => some 9
  | "oct" | "october" => some 10
  | "nov" | "november" => some 11
  | "dec" | "december" => some 12
  | _ => none

/-- The value that a name stands for, without regard to case. Only weekdays and months have names. -/
def valueOfName? (c : DateComponent) (s : String) : Option Int :=
  let lower := String.ofList (Text.lowercase s.toList)
  match c with
  | weekday => weekdayOfName? lower
  | month => monthOfName? lower
  | _ => none

end DateComponent

end ReceiptRules
