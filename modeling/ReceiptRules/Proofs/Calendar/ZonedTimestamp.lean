import Mathlib.Data.String.Basic
import ReceiptRules.Proofs.Calendar.WrittenTimestamp
import ReceiptRules.Proofs.Except

/-!
# Timestamps with an offset

A timestamp in fixed widths, `YYYY-MM-DDTHH:MM:SS` with or without a fraction of a second, is read in both
forms of timestamps alike, but for what may stand behind it: blanks in the free form, an offset in the
strict one. So with an offset behind it the free form refuses it and the strict form gives what the free
form gives without the offset, the clock on the wall (`Timestamp.Parts.read_text_append_offset`).
-/

namespace ReceiptRules.Timestamp

variable {cs ds rest : List Char} {t : Timestamp}

/-! ## Fixed widths -/

/-- The fraction of a second: nothing, or a point with digits behind it. -/
inductive IsFraction : List Char → Prop
  | none : IsFraction []
  | digits {ds : List Char} (hne : ds ≠ []) (hds : ∀ d ∈ ds, d.isDigit = true) :
      IsFraction ('.' :: ds)

/-- The parts of a timestamp in fixed widths, digits all. -/
structure Parts where
  year : List Char
  month : List Char
  day : List Char
  hour : List Char
  minute : List Char
  second : List Char
  fraction : List Char
  year_digits : Digits 4 year
  month_digits : Digits 2 month
  day_digits : Digits 2 day
  hour_digits : Digits 2 hour
  minute_digits : Digits 2 minute
  second_digits : Digits 2 second
  isFraction : IsFraction fraction

/-- `YYYY-MM-DDTHH:MM:SS` and the fraction. -/
def Parts.text (p : Parts) : List Char :=
  p.year ++ '-' :: p.month ++ '-' :: p.day ++ 'T' :: p.hour ++ ':' :: p.minute ++ ':' :: p.second ++
    p.fraction

/-- The offsets from universal time: `Z`, or a sign, hours and minutes. -/
inductive IsOffset : List Char → Prop
  | universal {c : Char} (hc : c = 'Z' ∨ c = 'z') : IsOffset [c]
  | shifted {sign : Char} {hours minutes : ℕ} (hsign : sign = '+' ∨ sign = '-') (hh : hours < 24)
      (hm : minutes < 60) : IsOffset (sign :: padded 2 hours ++ ':' :: padded 2 minutes)

/-- What can stand behind a fraction without being taken for a part of it. -/
def Stops (cs : List Char) : Prop := ∀ c ∈ cs.head?, c.isDigit = false ∧ c ≠ '.'

theorem IsFraction.readFraction_append (h : IsFraction cs) (hrest : Stops rest) :
    readFraction (cs ++ rest) = .ok (fractionValue cs.tail, rest) := by
  cases h with
  | none =>
    rw [List.nil_append]
    unfold readFraction
    split
    case h_1 => exact absurd rfl (hrest '.' rfl).2
    case h_2 => rfl
  | @digits ds hne hds =>
    have htake : (ds ++ rest).takeWhile Char.isDigit = ds := by
      rw [List.takeWhile_append_of_pos hds]
      cases rest with
      | nil => simp
      | cons c cs => simp [(hrest c rfl).1]
    simp [readFraction, htake, hne]

/-- One step of a reader that goes on. A whole reader is run by these from the front (`↓`), so that what
follows a step is looked at once. -/
theorem bind_of_eq_some {α β : Type} {o : Option α} {a : α} (h : o = some a) (f : α → Option β) :
    (o >>= f) = f a := by
  rw [h, Option.bind_eq_bind, Option.bind_some]

theorem length_le_utf8ByteSize (cs : List Char) : cs.length ≤ (String.ofList cs).utf8ByteSize := by
  rw [String.utf8ByteSize_ofList]
  induction cs with
  | nil => simp
  | cons c cs ih =>
    have hpos := c.utf8Size_pos
    rw [String.utf8Len_cons, List.length_cons]
    omega

theorem readDigits_append {count : ℕ} (h : Digits count ds) :
    readDigits count (ds ++ rest) = .ok (digitsValue ds, rest) := by
  simp [readDigits, h.spanDigits_append, h.length_eq]

namespace Parts

variable (p : Parts)

/-- The timestamp that the parts stand for, if there is one. -/
def timestamp? : Option Timestamp := do
  let date ← Date.ofNumbers? (digitsValue p.year) (digitsValue p.month) (digitsValue p.day)
  let time ← ClockTime.ofNumbers? (digitsValue p.hour) (digitsValue p.minute) (digitsValue p.second)
    (fractionValue p.fraction.tail)
  return ⟨date, time⟩

theorem readLocal?_text_append (hrest : Stops rest) :
    readLocal? (p.text ++ rest) = if rest.all Text.isBlank then p.timestamp? else none := by
  have hdash : Text.isBlank '-' = false := by decide
  have hT : Text.isBlank 'T' = false := by decide
  have hcolon : Text.isBlank ':' = false := by decide
  have hfraction : (readFraction (p.fraction ++ rest)).toOption =
      some (fractionValue p.fraction.tail, rest) := by
    rw [p.isFraction.readFraction_append hrest, Except.toOption]
  simp only [text, List.append_assoc, List.cons_append]
  simp only [readLocal?, ↓bind_of_eq_some p.year_digits.readYear?_append,
    ↓bind_of_eq_some (readMark?_cons hdash), ↓bind_of_eq_some p.month_digits.readShort?_append,
    ↓bind_of_eq_some p.day_digits.readShort?_append, ↓bind_of_eq_some (readMark?_cons hT),
    ↓bind_of_eq_some p.hour_digits.readShort?_append, ↓bind_of_eq_some (readMark?_cons hcolon),
    ↓bind_of_eq_some p.minute_digits.readShort?_append,
    ↓bind_of_eq_some p.second_digits.readShort?_append, ↓bind_of_eq_some hfraction]
  rfl

theorem length_text : p.text.length = 19 + p.fraction.length := by
  simp only [text, List.length_append, List.length_cons, p.year_digits.length_eq,
    p.month_digits.length_eq, p.day_digits.length_eq, p.hour_digits.length_eq,
    p.minute_digits.length_eq, p.second_digits.length_eq]

theorem readZoned_text_append (hrest : Stops rest) :
    readZoned (p.text ++ rest) = .ok t ↔ p.timestamp? = some t ∧ readOffset rest = .ok () := by
  have hsize : ¬ (String.ofList (p.text ++ rest)).utf8ByteSize < 19 := by
    have hlen := length_le_utf8ByteSize (p.text ++ rest)
    rw [List.length_append, p.length_text] at hlen
    omega
  have hdash : ∀ cs, readOneOf ['-'] ('-' :: cs) = .ok cs := fun _ => rfl
  have hT : ∀ cs, readOneOf ['T', 't', ' '] ('T' :: cs) = .ok cs := fun _ => rfl
  have hcolon : ∀ cs, readOneOf [':'] (':' :: cs) = .ok cs := fun _ => rfl
  simp only [readZoned, if_neg hsize]
  simp only [text, List.append_assoc, List.cons_append, bind_eq_ok, readDigits_append p.year_digits,
    readDigits_append p.month_digits, readDigits_append p.day_digits, hdash, Except.ok.injEq,
    exists_eq_left', timestamp?]
  cases Date.ofNumbers? (digitsValue p.year) (digitsValue p.month) (digitsValue p.day) with
  | none => simp
  | some date =>
    simp only [bind_eq_ok, readDigits_append p.hour_digits, readDigits_append p.minute_digits,
      readDigits_append p.second_digits, hT, hcolon, p.isFraction.readFraction_append hrest,
      Except.ok.injEq, exists_eq_left']
    cases ClockTime.ofNumbers? (digitsValue p.hour) (digitsValue p.minute) (digitsValue p.second)
      (fractionValue p.fraction.tail) with
    | none => simp
    | some time =>
      simp only [bind_eq_ok, pure_eq_ok, Option.bind_eq_bind, Option.bind_some, Option.pure_def,
        Option.some.injEq]
      constructor
      · rintro ⟨_, hoffset, ht⟩
        exact ⟨ht, hoffset⟩
      · rintro ⟨ht, hoffset⟩
        exact ⟨(), hoffset, ht⟩

end Parts

/-! ## Offsets -/

theorem readOffsetDigits_padded {n : ℕ} (h : n < 100) :
    readOffsetDigits (padded 2 n ++ rest) = .ok (n, rest) := by
  obtain ⟨hlen, hdigits⟩ := digits_padded (by omega : 0 < 2) h
  obtain ⟨a, b, hp⟩ := List.length_eq_two.mp hlen
  have hvalue : digitsValue [a, b] = n := by rw [← hp, digitsValue_padded]
  rw [hp] at hdigits ⊢
  simp [readOffsetDigits, hdigits, hvalue]

theorem IsOffset.readOffset (h : IsOffset cs) : readOffset cs = .ok () := by
  cases h with
  | universal hc => rcases hc with rfl | rfl <;> rfl
  | @shifted sign hours minutes hsign hh hm =>
    have hhours : readOffsetDigits (padded 2 hours ++ ':' :: padded 2 minutes) =
        .ok (hours, ':' :: padded 2 minutes) := readOffsetDigits_padded (by omega)
    have hminutes : readOffsetDigits (padded 2 minutes ++ []) = .ok (minutes, []) :=
      readOffsetDigits_padded (by omega)
    rw [List.append_nil] at hminutes
    have hletter : (sign = 'Z' || sign = 'z') = false := by rcases hsign with rfl | rfl <;> decide
    have hmark : (sign = '+' || sign = '-' || sign = '\u2212') = true := by
      rcases hsign with rfl | rfl <;> decide
    simp [Timestamp.readOffset, hletter, hmark, hhours, hminutes, hm, Nat.not_le.mpr hh]

theorem IsOffset.stops (h : IsOffset cs) : Stops cs := by
  cases h with
  | universal hc => rcases hc with rfl | rfl <;> simp [Stops]
  | shifted hsign => rcases hsign with rfl | rfl <;> simp [Stops]

theorem IsOffset.not_all_isBlank (h : IsOffset cs) : cs.all Text.isBlank = false := by
  cases h with
  | universal hc => rcases hc with rfl | rfl <;> rfl
  | shifted hsign => rcases hsign with rfl | rfl <;> simp [Text.isBlank]

/-! ## Reading -/

/-- A timestamp in fixed widths is read if its parts stand for one. -/
theorem Parts.read_text_eq_ok_iff (p : Parts) :
    read (String.ofList p.text) = .ok t ↔ p.timestamp? = some t := by
  have hstops : Stops [] := by simp [Stops]
  have hlocal := p.readLocal?_text_append hstops
  have hzoned := p.readZoned_text_append (t := t) hstops
  rw [List.append_nil] at hlocal hzoned
  rw [read, String.toList_ofList, hlocal]
  cases ht : p.timestamp? with
  | none => simpa [ht] using hzoned
  | some t' => simp

/-- An offset behind a timestamp in fixed widths does not change what is read. -/
theorem Parts.read_text_append_offset (p : Parts) {offset : List Char} (h : IsOffset offset)
    (ht : read (String.ofList p.text) = .ok t) : read (String.ofList (p.text ++ offset)) = .ok t := by
  rw [p.read_text_eq_ok_iff] at ht
  have hlocal := p.readLocal?_text_append h.stops
  rw [h.not_all_isBlank, if_neg Bool.false_ne_true] at hlocal
  have hzoned := (p.readZoned_text_append h.stops).mpr ⟨ht, h.readOffset⟩
  rw [read, String.toList_ofList, hlocal]
  exact hzoned

end ReceiptRules.Timestamp
