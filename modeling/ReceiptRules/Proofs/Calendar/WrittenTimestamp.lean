import Mathlib.Algebra.Group.Nat.Defs
import Mathlib.Data.Int.Basic
import Mathlib.Data.List.TakeWhile
import ReceiptRules.Calendar.Reader
import ReceiptRules.Proofs.Calendar.DayOfYear
import ReceiptRules.Proofs.Condition.ClockText

/-!
# Written timestamps

The written form of a timestamp is of the free form, and is read back as the timestamp itself:
`Timestamp.read_text`. This covers the signed years outside 0 to 9999, the fractions of three, six and
nine digits, and the leap second, which is written as second 60.
-/

namespace ReceiptRules

theorem length_padded_of_lt {width n : ℕ} (hwidth : 0 < width) (h : n < 10 ^ width) :
    (padded width n).length = width := by
  have hle : (Nat.toDigits 10 n).length ≤ width :=
    (Nat.length_toDigits_le_iff (by omega) hwidth).mpr h
  simp only [padded, List.length_append, List.length_replicate]
  omega

namespace Timestamp

variable {cs ds rest : List Char} {c : Char} {n width : ℕ}

/-! ## Digits -/

theorem digitsValue_eq : digitsValue ds = Nat.ofDigitChars 10 ds 0 := rfl

@[simp] theorem digitsValue_padded : digitsValue (padded width n) = n := by
  simp [digitsValue_eq, padded, Nat.ofDigitChars_append, Nat.ofDigitChars_ten_toDigits]

/-- So many decimal digits. -/
structure Digits (count : ℕ) (ds : List Char) : Prop where
  length_eq : ds.length = count
  isDigit_of_mem : ∀ d ∈ ds, d.isDigit = true

theorem digits_padded (hwidth : 0 < width) (h : n < 10 ^ width) : Digits width (padded width n) :=
  ⟨length_padded_of_lt hwidth h, fun _ => isDigit_of_mem_padded⟩

/-- As many digits as are asked for are taken, whatever comes after them. -/
theorem Digits.spanDigits_append {count : ℕ} (h : Digits count ds) :
    spanDigits count (ds ++ rest) = (ds, rest) := by
  obtain ⟨rfl, hdigits⟩ := h
  induction ds with
  | nil => rfl
  | cons d ds ih =>
    obtain ⟨hd, hds⟩ := List.forall_mem_cons.mp hdigits
    simp [spanDigits, hd, ih hds]

theorem Digits.exists_cons {count : ℕ} (hpos : 0 < count) (h : Digits count ds) :
    ∃ d ds', ds = d :: ds' ∧ d.isDigit = true := by
  obtain ⟨rfl, hdigits⟩ := h
  obtain ⟨d, ds', rfl⟩ := List.exists_cons_of_length_pos hpos
  exact ⟨d, ds', rfl, hdigits d List.mem_cons_self⟩

/-- All digits at the start are taken if no digit follows. -/
theorem takeWhile_padded_append (hc : c.isDigit = false) :
    (padded width n ++ c :: rest).takeWhile Char.isDigit = padded width n := by
  rw [List.takeWhile_append_of_pos fun _ => isDigit_of_mem_padded]
  simp [hc]

/-! ## The parts of a timestamp -/

theorem trimStart_cons (hc : Text.isBlank c = false) :
    Text.trimStart Text.isBlank (c :: rest) = c :: rest := by
  simp [Text.trimStart, hc]

theorem Digits.trimStart_append {count : ℕ} (hpos : 0 < count) (h : Digits count ds) :
    Text.trimStart Text.isBlank (ds ++ rest) = ds ++ rest := by
  obtain ⟨d, ds', rfl, hd⟩ := h.exists_cons hpos
  exact trimStart_cons (isBlank_of_isDigit hd)

theorem readMark?_cons (hc : Text.isBlank c = false) : readMark? c (c :: rest) = some rest := by
  simp [readMark?, trimStart_cons hc]

theorem Digits.readShort?_append (h : Digits 2 ds) :
    readShort? (ds ++ rest) = some (digitsValue ds, rest) := by
  obtain ⟨d, ds', rfl, -⟩ := h.exists_cons (by omega)
  rw [readShort?, h.trimStart_append (by omega), h.spanDigits_append]

theorem readShort?_padded (h : n < 100) : readShort? (padded 2 n ++ rest) = some (n, rest) := by
  rw [(digits_padded (by omega) h).readShort?_append, digitsValue_padded]

theorem Digits.readYear?_append (h : Digits 4 ds) :
    readYear? (ds ++ rest) = some ((digitsValue ds : ℤ), rest) := by
  obtain ⟨d, ds', rfl, hd⟩ := h.exists_cons (by omega)
  have hminus : d ≠ '-' := by
    rintro rfl
    exact absurd hd (by decide)
  have hplus : d ≠ '+' := by
    rintro rfl
    exact absurd hd (by decide)
  have hspan : spanDigits 4 (d :: (ds' ++ rest)) = (d :: ds', rest) := h.spanDigits_append
  simp [readYear?, trimStart_cons (isBlank_of_isDigit hd), hminus, hplus, hspan]

theorem readYear?_unsigned (h : n < 10 ^ 4) :
    readYear? (padded 4 n ++ '-' :: rest) = some ((n : ℤ), '-' :: rest) := by
  rw [(digits_padded (by omega) h).readYear?_append, digitsValue_padded]

theorem readYear?_minus :
    readYear? ('-' :: padded 4 n ++ '-' :: rest) = some (-(n : ℤ), '-' :: rest) := by
  have hdigits : (padded 4 n ++ '-' :: rest).takeWhile Char.isDigit = padded 4 n :=
    takeWhile_padded_append rfl
  simp [readYear?, trimStart_cons, Text.isBlank, hdigits, padded_ne_nil]

theorem readYear?_plus :
    readYear? ('+' :: padded 4 n ++ '-' :: rest) = some ((n : ℤ), '-' :: rest) := by
  have hdigits : (padded 4 n ++ '-' :: rest).takeWhile Char.isDigit = padded 4 n :=
    takeWhile_padded_append rfl
  simp [readYear?, trimStart_cons, Text.isBlank, hdigits, padded_ne_nil]

/-- A year is read back as far as the mark behind it, with a sign or without. -/
theorem readYear?_yearText (y : ℤ) :
    readYear? (yearText y ++ '-' :: rest) = some (y, '-' :: rest) := by
  rw [yearText]
  split_ifs with hplain hneg
  · rw [readYear?_unsigned (by omega), Int.toNat_of_nonneg hplain.1]
  · have habs : -(y.natAbs : ℤ) = y := by omega
    rw [readYear?_minus, habs]
  · have habs : (y.natAbs : ℤ) = y := by omega
    rw [readYear?_plus, habs]

/-- A fraction of `width` digits counts in units of the last of them. -/
theorem fractionValue_padded (hwidth : 0 < width) (hle : width ≤ 9) (h : n < 10 ^ width) :
    fractionValue (padded width n) = n * 10 ^ (9 - width) := by
  have hlen := length_padded_of_lt hwidth h
  have htake : (padded width n).take 9 = padded width n := List.take_of_length_le (by omega)
  rw [fractionValue, htake, hlen, digitsValue_eq, Nat.ofDigitChars_append,
    Nat.ofDigitChars_replicate_zero, ← digitsValue_eq, digitsValue_padded, Nat.mul_comm]

theorem readFraction_padded (hwidth : 0 < width) (hle : width ≤ 9) (h : n < 10 ^ width) :
    readFraction ('.' :: padded width n) = .ok (n * 10 ^ (9 - width), []) := by
  have htake : (padded width n).takeWhile Char.isDigit = padded width n :=
    List.takeWhile_eq_self_iff.mpr fun _ => isDigit_of_mem_padded
  simp [readFraction, htake, padded_ne_nil, fractionValue_padded hwidth hle h]

/-- A fraction is read back in each of its widths. -/
theorem readFraction_fractionText (h : n < nanoseconds) :
    readFraction (fractionText n) = .ok (n, []) := by
  rw [nanoseconds] at h
  rw [fractionText]
  split_ifs with hzero hmilli hmicro
  · subst hzero
    rfl
  · rw [readFraction_padded (by omega) (by omega) (by omega)]
    congr
    omega
  · rw [readFraction_padded (by omega) (by omega) (by omega)]
    congr
    omega
  · rw [readFraction_padded (by omega) (by omega) (by omega)]
    simp

/-- The numbers that stand for a time of day in its written form, a leap second as second 60. -/
theorem exists_timeText_eq (t : ClockTime) :
    ∃ second nanosecond, second < 100 ∧ nanosecond < nanoseconds ∧
      timeText t = padded 2 t.hour ++ ':' :: padded 2 t.minute ++ ':' :: padded 2 second ++
        fractionText nanosecond ∧
      ClockTime.ofNumbers? t.hour t.minute second nanosecond = some t := by
  have ht := t.isClockTime
  obtain ⟨-, -, hsecond, hnano⟩ := t.isClockTime
  by_cases hleap : nanoseconds ≤ t.nanosecond
  · have hlast : t.second = 59 := by omega
    refine ⟨60, t.nanosecond - nanoseconds, by omega, by omega, ?_, ?_⟩
    · simp [timeText, hleap, hlast]
    · have hsum : t.nanosecond - nanoseconds + nanoseconds = t.nanosecond := by omega
      simp [ClockTime.ofNumbers?, hsum, ← hlast, ht]
  · refine ⟨t.second, t.nanosecond, by omega, by omega, ?_, ?_⟩
    · simp [timeText, hleap]
    · have hne : t.second ≠ 60 := by omega
      simp [ClockTime.ofNumbers?, hne, ht]

theorem ofNumbers?_date (date : Date) :
    Date.ofNumbers? date.year date.month date.day = some date :=
  dif_pos date.isDate

/-- Months and days have two digits. -/
theorem month_and_day_lt (date : Date) : date.month < 100 ∧ date.day < 100 := by
  have hmonth := date.month_bounds
  have hday := date.day_bounds
  omega

/-- Every timestamp is read back from its written form. -/
theorem read_text (t : Timestamp) : read t.text = .ok t := by
  obtain ⟨date, time⟩ := t
  obtain ⟨second, nanosecond, hsecond, hnano, htext, htime⟩ := exists_timeText_eq time
  obtain ⟨hmonth, hday⟩ := month_and_day_lt date
  have hclock : time.hour < 100 ∧ time.minute < 100 := by
    obtain ⟨hhour, hminute, -⟩ := time.isClockTime
    omega
  have hdash : Text.isBlank '-' = false := by decide
  have hT : Text.isBlank 'T' = false := by decide
  have hcolon : Text.isBlank ':' = false := by decide
  have hlocal : readLocal? (text ⟨date, time⟩).toList = some ⟨date, time⟩ := by
    simp only [text, String.toList_ofList, htext, readLocal?, List.append_assoc, List.cons_append,
      Option.bind_eq_bind, Option.bind_eq_some_iff]
    -- The parts are read from the left, each with all that follows it.
    refine ⟨_, readYear?_yearText _, _, readMark?_cons hdash, _, readShort?_padded hmonth,
      _, readMark?_cons hdash, _, readShort?_padded hday, _, readMark?_cons hT,
      _, readShort?_padded hclock.1, _, readMark?_cons hcolon, _, readShort?_padded hclock.2,
      _, readMark?_cons hcolon, _, readShort?_padded hsecond, (nanosecond, []), ?_, ?_⟩
    · rw [readFraction_fractionText hnano]
      rfl
    · simp [ofNumbers?_date, htime]
  rw [read, hlocal]

end Timestamp

end ReceiptRules
