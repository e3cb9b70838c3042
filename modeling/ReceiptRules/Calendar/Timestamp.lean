import ReceiptRules.Calendar.Date

/-!
# Timestamps

A date and a time of day as a clock on the wall shows them, without a time zone. A leap second is held
as second 59 with more than a thousand million nanoseconds, so that hour, minute and second are always
those of an ordinary clock.
-/

namespace ReceiptRules

/-- The number of nanoseconds in a second. -/
def nanoseconds : Nat := 1_000_000_000

/-- What makes four numbers a time of day. -/
def IsClockTime (hour minute second nanosecond : Nat) : Prop :=
  hour < 24 ∧ minute < 60 ∧ second < 60 ∧
    (nanosecond < nanoseconds ∨ second = 59 ∧ nanosecond < 2 * nanoseconds)

instance (hour minute second nanosecond : Nat) :
    Decidable (IsClockTime hour minute second nanosecond) :=
  inferInstanceAs (Decidable (_ ∧ _))

/-- A time of day. -/
structure ClockTime where
  hour : Nat
  minute : Nat
  second : Nat
  nanosecond : Nat
  isClockTime : IsClockTime hour minute second nanosecond
  deriving DecidableEq

namespace ClockTime

/-- The time with the given numbers, if there is one. Second 60 stands for a leap second. -/
def ofNumbers? (hour minute second nanosecond : Nat) : Option ClockTime :=
  let (second, nanosecond) := if second = 60 then (59, nanosecond + nanoseconds) else (second, nanosecond)
  if h : IsClockTime hour minute second nanosecond then
    some ⟨hour, minute, second, nanosecond, h⟩
  else none

end ClockTime

/-- A date and a time of day. -/
structure Timestamp where
  date : Date
  time : ClockTime
  deriving DecidableEq

/-- A number in decimal digits, with zeros in front up to a width. -/
def padded (width n : Nat) : List Char :=
  let digits := Nat.toDigits 10 n
  List.replicate (width - digits.length) '0' ++ digits

namespace Timestamp

/-- A year: four digits, and with a sign outside the years 0 to 9999. -/
def yearText (year : Int) : List Char :=
  if 0 ≤ year ∧ year ≤ 9999 then padded 4 year.toNat
  else (if year < 0 then '-' else '+') :: padded 4 year.natAbs

/-- A fraction of a second in three, six or nine digits, whichever are enough; none if it is zero. -/
def fractionText (nanosecond : Nat) : List Char :=
  if nanosecond = 0 then []
  else if nanosecond % 1_000_000 = 0 then '.' :: padded 3 (nanosecond / 1_000_000)
  else if nanosecond % 1_000 = 0 then '.' :: padded 6 (nanosecond / 1_000)
  else '.' :: padded 9 nanosecond

/-- The written form of a time of day; a leap second is written as second 60. -/
def timeText (t : ClockTime) : List Char :=
  let (second, nanosecond) :=
    if nanoseconds ≤ t.nanosecond then (t.second + 1, t.nanosecond - nanoseconds)
    else (t.second, t.nanosecond)
  padded 2 t.hour ++ ':' :: padded 2 t.minute ++ ':' :: padded 2 second ++ fractionText nanosecond

/-- The written form of a timestamp, as in `2024-03-17T19:30:00.500`. -/
def text (t : Timestamp) : String :=
  String.ofList (yearText t.date.year ++ '-' :: padded 2 t.date.month ++ '-' :: padded 2 t.date.day ++
    'T' :: timeText t.time)

end Timestamp

end ReceiptRules
