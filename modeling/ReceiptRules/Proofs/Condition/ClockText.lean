import Mathlib.Tactic.Common
import ReceiptRules.Condition.TimeOfDay

/-!
# Written times of day

A time is written as its numbers between colons, each with two digits; the hour may do without a zero in
front. `TimeOfDay.Written` says so without reference to the reader, and `ofText?_eq_some_iff` that the
reader accepts exactly these texts, with blanks around them. The written form of any time at all is read
back if the time is one of the clock, and refused otherwise (`ofText?_text`).
-/

namespace ReceiptRules

namespace Text

variable {mark : Char} {piece rest cs : List Char}

theorem pieces_of_notMem (h : mark ∉ piece) : pieces mark piece = [piece] := by
  induction piece with
  | nil => rfl
  | cons c cs ih =>
    have hc : c ≠ mark := fun heq => h (by simp [heq])
    have hcs : mark ∉ cs := fun hmem => h (by simp [hmem])
    simp [pieces, hc, ih hcs]

theorem pieces_append_cons (h : mark ∉ piece) :
    pieces mark (piece ++ mark :: rest) = piece :: pieces mark rest := by
  induction piece with
  | nil => simp [pieces]
  | cons c cs ih =>
    have hc : c ≠ mark := fun heq => h (by simp [heq])
    have hcs : mark ∉ cs := fun hmem => h (by simp [hmem])
    simp [pieces, hc, ih hcs]

theorem trim_eq_self (hhead : ∀ c ∈ cs.head?, isBlank c = false)
    (hlast : ∀ c ∈ cs.getLast?, isBlank c = false) : trim cs = cs := by
  have hdrop : ∀ ds : List Char, (∀ c ∈ ds.head?, isBlank c = false) →
      ds.dropWhile isBlank = ds := by
    intro ds hds
    cases ds with
    | nil => rfl
    | cons d ds => simp [hds d rfl]
  have hreverse : ∀ c ∈ cs.reverse.head?, isBlank c = false := by
    rwa [List.head?_reverse]
  rw [trim, trimStart, hdrop cs hhead, trimEnd, hdrop _ hreverse, List.reverse_reverse]

end Text

theorem isDigit_of_mem_padded {width n : ℕ} {c : Char} (h : c ∈ padded width n) :
    c.isDigit = true := by
  rcases List.mem_append.mp h with h | h
  · rw [List.eq_of_mem_replicate h]
    rfl
  · exact Nat.isDigit_of_mem_toDigits (by omega) (by omega) h

theorem padded_ne_nil {width n : ℕ} : padded width n ≠ [] := fun h =>
  Nat.toDigits_ne_nil (List.append_eq_nil_iff.mp h).2

theorem length_padded {n : ℕ} (h : n < 100) : (padded 2 n).length = 2 := by
  have hle : (Nat.toDigits 10 n).length ≤ 2 :=
    (Nat.length_toDigits_le_iff (by omega) (by omega)).mpr (by omega)
  simp only [padded, List.length_append, List.length_replicate]
  omega

theorem isBlank_of_isDigit {c : Char} (h : c.isDigit = true) : Text.isBlank c = false := by
  rw [Char.isDigit_iff_toNat] at h
  change 48 ≤ c.toNat ∧ c.toNat ≤ 57 at h
  simp only [Text.isBlank, Bool.or_eq_false_iff, Bool.and_eq_false_iff, decide_eq_false_iff_not,
    beq_eq_false_iff_ne]
  omega

theorem exists_digitChar {c : Char} (h : c.isDigit = true) : ∃ d < 10, c = d.digitChar := by
  rw [Char.isDigit_iff_toNat] at h
  change 48 ≤ c.toNat ∧ c.toNat ≤ 57 at h
  refine ⟨c.toNat - 48, by omega, Char.toNat_inj.mp ?_⟩
  rw [Nat.toNat_digitChar_of_lt_ten (by omega)]
  omega

namespace TimeOfDay

/-! ## Single numbers -/

theorem readPart?_eq (least : ℕ) (digits : List Char) :
    readPart? least digits =
      if least ≤ digits.length ∧ digits.length ≤ 2 ∧ digits.all Char.isDigit = true then
        some (Nat.ofDigitChars 10 digits 0)
      else none := by
  simp only [readPart?, Bool.and_eq_true, decide_eq_true_eq, and_assoc]
  rfl

theorem readPart?_padded {least : ℕ} (hl : least ≤ 2) (n : ℕ) :
    readPart? least (padded 2 n) = if n < 100 then some n else none := by
  have hdigits : (padded 2 n).all Char.isDigit = true :=
    List.all_eq_true.mpr fun c hc => isDigit_of_mem_padded hc
  have hvalue : Nat.ofDigitChars 10 (padded 2 n) 0 = n := by
    simp [padded, Nat.ofDigitChars_append, Nat.ofDigitChars_ten_toDigits]
  rw [readPart?_eq, hvalue]
  by_cases hn : n < 100
  · have hlen : (padded 2 n).length = 2 := length_padded hn
    rw [if_pos ⟨by omega, by omega, hdigits⟩, if_pos hn]
  · have hlong : ¬ (Nat.toDigits 10 n).length ≤ 2 := by
      rw [Nat.length_toDigits_le_iff (by omega) (by omega)]
      omega
    have hlen : ¬ (padded 2 n).length ≤ 2 := by
      simp only [padded, List.length_append]
      omega
    rw [if_neg fun h => hlen h.2.1, if_neg hn]

theorem readPart?_toDigits {n : ℕ} (h : n < 100) : readPart? 1 (Nat.toDigits 10 n) = some n := by
  have hdigits : (Nat.toDigits 10 n).all Char.isDigit = true :=
    List.all_eq_true.mpr fun c hc => Nat.isDigit_of_mem_toDigits (by omega) (by omega) hc
  have hlen : (Nat.toDigits 10 n).length ≤ 2 :=
    (Nat.length_toDigits_le_iff (by omega) (by omega)).mpr (by omega)
  rw [readPart?_eq, Nat.ofDigitChars_ten_toDigits,
    if_pos ⟨Nat.length_toDigits_pos, hlen, hdigits⟩]

/-- What is read as a number is the number itself, with two digits or with no zero in front. -/
theorem eq_of_readPart? {least n : ℕ} (hl : 1 ≤ least) {digits : List Char}
    (h : readPart? least digits = some n) :
    digits = padded 2 n ∨ least = 1 ∧ digits = Nat.toDigits 10 n := by
  rw [readPart?_eq] at h
  split at h
  case isFalse => cases h
  case isTrue hd =>
    obtain ⟨hleast, hlen, hall⟩ := hd
    cases h
    rw [List.all_eq_true] at hall
    match digits with
    | [] => simp at hleast; omega
    | [a] =>
      obtain ⟨d, hd, rfl⟩ := exists_digitChar (hall a (by simp))
      right
      refine ⟨by simp at hleast; omega, ?_⟩
      simp [Nat.ofDigitChars_cons_digitChar_of_lt_ten hd, Nat.toDigits_of_lt_base hd]
    | [a, b] =>
      obtain ⟨d, hd, rfl⟩ := exists_digitChar (hall a (by simp))
      obtain ⟨e, he, rfl⟩ := exists_digitChar (hall b (by simp))
      left
      simp only [Nat.ofDigitChars_cons_digitChar_of_lt_ten hd,
        Nat.ofDigitChars_cons_digitChar_of_lt_ten he, Nat.ofDigitChars_nil, Nat.mul_zero, Nat.zero_add]
      rcases Nat.eq_zero_or_pos d with rfl | hpos
      · simp [padded, Nat.toDigits_of_lt_base he]
      · rw [padded, ← Nat.toDigits_append_toDigits (by omega) hpos he, Nat.toDigits_of_lt_base hd,
          Nat.toDigits_of_lt_base he]
        rfl
    | a :: b :: c :: rest => simp at hlen

/-! ## Whole times -/

/-- The ways to write a number: with two digits, or without a zero in front. -/
inductive HourText (n : ℕ) : List Char → Prop
  | padded : HourText n (padded 2 n)
  | short : HourText n (Nat.toDigits 10 n)

/-- The seconds of a time with the colon before them, if it has seconds. -/
def secondsText : Option ℕ → List Char
  | some second => ':' :: padded 2 second
  | none => []

/-- The texts of a time of the clock, without blanks around them. -/
def Written (cs : List Char) (t : TimeOfDay) : Prop :=
  t.IsValid ∧ ∃ hour, HourText t.hour hour ∧
    cs = hour ++ ':' :: padded 2 t.minute ++ secondsText t.second

theorem toList_text (t : TimeOfDay) :
    t.text.toList = padded 2 t.hour ++ ':' :: padded 2 t.minute ++ secondsText t.second := by
  obtain ⟨hour, minute, second⟩ := t
  cases second <;> simp [text, secondsText]

theorem colon_notMem_padded (n : ℕ) : ':' ∉ padded 2 n := fun h =>
  absurd (isDigit_of_mem_padded h) (by decide)

theorem HourText.colon_notMem {n : ℕ} {cs : List Char} (h : HourText n cs) : ':' ∉ cs := by
  cases h with
  | padded => exact colon_notMem_padded n
  | short => exact fun h => absurd (Nat.isDigit_of_mem_toDigits (by omega) (by omega) h) (by decide)

theorem HourText.readPart? {n : ℕ} (hn : n < 100) {cs : List Char} (h : HourText n cs) :
    TimeOfDay.readPart? 1 cs = some n := by
  cases h with
  | padded => rw [readPart?_padded (by omega), if_pos hn]
  | short => exact readPart?_toDigits hn

theorem hourText_of_readPart? {n : ℕ} {cs : List Char} (h : readPart? 1 cs = some n) :
    HourText n cs := by
  rcases eq_of_readPart? (Nat.le_refl 1) h with rfl | ⟨-, rfl⟩
  · exact .padded
  · exact .short

theorem eq_padded_of_readPart? {n : ℕ} {cs : List Char} (h : readPart? 2 cs = some n) :
    cs = padded 2 n := by
  rcases eq_of_readPart? (by omega) h with rfl | ⟨h, -⟩
  · rfl
  · omega

/-- The pieces of a written time between its colons. -/
theorem pieces_written {hour minute : List Char} (hh : ':' ∉ hour) (hm : ':' ∉ minute)
    (second : Option ℕ) :
    Text.pieces ':' (hour ++ ':' :: minute ++ secondsText second) =
      hour :: minute :: (second.map (padded 2)).toList := by
  cases second with
  | none =>
    rw [secondsText, List.append_nil, Text.pieces_append_cons hh, Text.pieces_of_notMem hm]
    rfl
  | some second =>
    rw [secondsText, List.append_assoc, List.cons_append, Text.pieces_append_cons hh,
      Text.pieces_append_cons hm, Text.pieces_of_notMem (colon_notMem_padded second)]
    rfl

/-- Reading accepts exactly the texts of times of the clock, with blanks around them. -/
theorem ofText?_eq_some_iff {s : String} {t : TimeOfDay} :
    ofText? s = some t ↔ Written (Text.trim s.toList) t := by
  constructor
  · intro h
    have hwhole := Text.intercalate_pieces ':' (Text.trim s.toList)
    rw [ofText?] at h
    split at h
    · next hour minute hp =>
      simp only [Option.bind_eq_bind, Option.pure_def, Option.bind_some, Option.bind_eq_some_iff,
        Option.ite_none_right_eq_some, Option.some.injEq] at h
      obtain ⟨a, ha, b, hb, hvalid, rfl⟩ := h
      refine ⟨hvalid, hour, hourText_of_readPart? ha, ?_⟩
      rw [← hwhole, hp, eq_padded_of_readPart? hb]
      simp [secondsText, List.intercalate, List.intersperse]
    · next hour minute second hp =>
      simp only [Option.bind_eq_bind, Option.pure_def, Option.bind_some, Option.bind_eq_some_iff,
        Option.ite_none_right_eq_some, Option.some.injEq] at h
      obtain ⟨a, ha, b, hb, c, hc, hvalid, rfl⟩ := h
      refine ⟨hvalid, hour, hourText_of_readPart? ha, ?_⟩
      rw [← hwhole, hp, eq_padded_of_readPart? hb, eq_padded_of_readPart? hc]
      simp [secondsText, List.intercalate, List.intersperse]
    · simp at h
  · intro h
    rcases h with ⟨hvalid, hour, hhour, htext⟩
    obtain ⟨h, m, second⟩ := t
    have hbounds := hvalid
    obtain ⟨hh, hm, hs⟩ := hbounds
    simp only at hh hm hs hhour htext
    have hpieces := pieces_written hhour.colon_notMem (colon_notMem_padded m) second
    have hhour' := hhour.readPart? (by omega)
    have hminute : readPart? 2 (padded 2 m) = some m := by
      rw [readPart?_padded (Nat.le_refl 2), if_pos (by omega)]
    rw [ofText?, htext, hpieces]
    cases second with
    | none => simp [hhour', hminute, hvalid]
    | some second =>
      have hsecond : readPart? 2 (padded 2 second) = some second := by
        have := hs second rfl
        rw [readPart?_padded (Nat.le_refl 2), if_pos (by omega)]
      simp [hhour', hminute, hsecond, hvalid]

theorem isBlank_of_mem_padded {width n : ℕ} {c : Char} (h : c ∈ padded width n) :
    Text.isBlank c = false :=
  isBlank_of_isDigit (isDigit_of_mem_padded h)

/-- The written form of a time has no blanks at its ends. -/
theorem trim_text (t : TimeOfDay) : Text.trim t.text.toList = t.text.toList := by
  obtain ⟨h, m, second⟩ := t
  rw [toList_text]
  apply Text.trim_eq_self
  · intro c hc
    rw [List.append_assoc, List.head?_append, List.head?_eq_some_head padded_ne_nil] at hc
    cases hc
    exact isBlank_of_mem_padded (List.head_mem padded_ne_nil)
  · intro c hc
    cases second with
    | none =>
      rw [secondsText, List.append_nil, List.getLast?_append, List.getLast?_cons,
        List.getLast?_eq_some_getLast padded_ne_nil] at hc
      cases hc
      exact isBlank_of_mem_padded (List.getLast_mem padded_ne_nil)
    | some second =>
      rw [secondsText, List.getLast?_append, List.getLast?_cons,
        List.getLast?_eq_some_getLast padded_ne_nil] at hc
      cases hc
      exact isBlank_of_mem_padded (List.getLast_mem padded_ne_nil)

/-- The written form of a time, also of one that is on no clock, is read back exactly if the time is on
the clock. -/
theorem ofText?_text (t : TimeOfDay) : ofText? t.text = if t.IsValid then some t else none := by
  by_cases hv : t.IsValid
  · rw [if_pos hv, ofText?_eq_some_iff, trim_text, toList_text]
    exact ⟨hv, _, .padded, rfl⟩
  · -- A number of three digits is not read, and others are read as they are.
    obtain ⟨h, m, second⟩ := t
    have hpieces := pieces_written (colon_notMem_padded h) (colon_notMem_padded m) second
    have hhour := readPart?_padded (by omega : 1 ≤ 2) h
    have hminute := readPart?_padded (Nat.le_refl 2) m
    rw [if_neg hv, ofText?, trim_text, toList_text, hpieces]
    cases second with
    | none =>
      simp only [Option.map_none, Option.toList_none, hhour, hminute]
      split_ifs <;> simp [hv]
    | some second =>
      have hsecond := readPart?_padded (Nat.le_refl 2) second
      simp only [Option.map_some, Option.toList_some, hhour, hminute, hsecond]
      split_ifs <;> simp [hv]

end TimeOfDay

end ReceiptRules
