import ReceiptRules.Proofs.Condition.ClockText
import ReceiptRules.Proofs.Text.Trimming

/-!
# Spelled times of day

How a time of day is spelled, digit by digit and without reference to numbers in their written form:
`TimeOfDay.Spells`. The reader takes exactly the texts that are spelled so, with blanks around them, and
what it gives back is written as the text itself unless the hour had one digit only
(`ofText?_iff_spells`).
-/

namespace ReceiptRules.TimeOfDay

/-- One of the ten ASCII digits, with its value. -/
structure IsDigit (c : Char) (d : ℕ) : Prop where
  lt_ten : d < 10
  toNat_eq : c.toNat = '0'.toNat + d

/-- Two digits, with the number that they stand for. -/
inductive TwoDigits : List Char → ℕ → Prop
  | intro {c c' : Char} {d d' : ℕ} (tens : IsDigit c d) (ones : IsDigit c' d') :
      TwoDigits [c, c'] (10 * d + d')

/-- One digit or two. -/
inductive HourDigits : List Char → ℕ → Prop
  | one {c : Char} {d : ℕ} (ones : IsDigit c d) : HourDigits [c] d
  | two {cs : List Char} {n : ℕ} (both : TwoDigits cs n) : HourDigits cs n

/-- The texts `h:mm`, `hh:mm`, `h:mm:ss` and `hh:mm:ss` of a time of the clock. -/
inductive Spells : List Char → TimeOfDay → Prop
  | minutes {h m : List Char} {hour minute : ℕ} (hh : HourDigits h hour) (hm : TwoDigits m minute)
      (hour_lt : hour < 24) (minute_lt : minute < 60) :
      Spells (h ++ ':' :: m) ⟨hour, minute, none⟩
  | seconds {h m s : List Char} {hour minute second : ℕ} (hh : HourDigits h hour)
      (hm : TwoDigits m minute) (hs : TwoDigits s second) (hour_lt : hour < 24)
      (minute_lt : minute < 60) (second_lt : second < 60) :
      Spells (h ++ ':' :: m ++ ':' :: s) ⟨hour, minute, some second⟩

variable {cs : List Char} {n : ℕ} {t : TimeOfDay}

/-! ## Digits -/

theorem isDigit_iff {c : Char} {d : ℕ} : IsDigit c d ↔ c.isDigit = true ∧ c.toNat - '0'.toNat = d := by
  rw [Char.isDigit_iff_toNat]
  change _ ↔ (48 ≤ c.toNat ∧ c.toNat ≤ 57) ∧ c.toNat - 48 = d
  constructor
  · rintro ⟨hd, hc⟩
    change c.toNat = 48 + d at hc
    omega
  · rintro ⟨hc, hd⟩
    exact ⟨by omega, show c.toNat = 48 + d by omega⟩

theorem twoDigits_iff : TwoDigits cs n ↔ readPart? 2 cs = some n := by
  rw [readPart?_eq]
  constructor
  · rintro ⟨htens, hones⟩
    obtain ⟨hc, rfl⟩ := isDigit_iff.mp htens
    obtain ⟨hc', rfl⟩ := isDigit_iff.mp hones
    simp [hc, hc', Nat.ofDigitChars]
  · intro h
    split at h
    case isFalse => cases h
    case isTrue hd =>
      obtain ⟨hleast, hmost, hall⟩ := hd
      obtain ⟨c, c', rfl⟩ := List.length_eq_two.mp (Nat.le_antisymm hmost hleast)
      simp only [List.all_cons, List.all_nil, Bool.and_true, Bool.and_eq_true] at hall
      cases h
      simpa [Nat.ofDigitChars] using
        TwoDigits.intro (isDigit_iff.mpr ⟨hall.1, rfl⟩) (isDigit_iff.mpr ⟨hall.2, rfl⟩)

theorem readPart?_one_eq_two (h : 2 ≤ cs.length) : readPart? 1 cs = readPart? 2 cs := by
  have hone : 1 ≤ cs.length := by omega
  simp only [readPart?_eq, h, hone, true_and]

theorem hourDigits_iff : HourDigits cs n ↔ readPart? 1 cs = some n := by
  constructor
  · rintro (hones | hboth)
    · obtain ⟨hc, rfl⟩ := isDigit_iff.mp hones
      simp [readPart?_eq, hc, Nat.ofDigitChars]
    · have hlen : 2 ≤ cs.length := by cases hboth; simp
      rw [readPart?_one_eq_two hlen, ← twoDigits_iff]
      exact hboth
  · intro h
    match cs with
    | [] => cases h
    | [c] =>
      simp only [readPart?_eq, List.length_singleton, List.all_cons, List.all_nil, Bool.and_true,
        Nat.le_refl, Nat.reduceLeDiff, true_and, Option.ite_none_right_eq_some, Option.some.injEq] at h
      exact .one (isDigit_iff.mpr (by simpa [Nat.ofDigitChars] using h))
    | c :: c' :: rest =>
      rw [readPart?_one_eq_two (by simp), ← twoDigits_iff] at h
      exact .two h

/-! ## Times -/

theorem TwoDigits.eq_padded (h : TwoDigits cs n) : cs = padded 2 n :=
  eq_padded_of_readPart? (twoDigits_iff.mp h)

theorem twoDigits_padded (h : n < 100) : TwoDigits (padded 2 n) n := by
  rw [twoDigits_iff, readPart?_padded (Nat.le_refl 2), if_pos h]

theorem HourText.hourDigits (hn : n < 100) (h : HourText n cs) : HourDigits cs n :=
  hourDigits_iff.mpr (h.readPart? hn)

theorem HourDigits.hourText (h : HourDigits cs n) : HourText n cs :=
  hourText_of_readPart? (hourDigits_iff.mp h)

/-- A text spells a time digit by digit exactly if it is a written form of its numbers. -/
theorem spells_iff : Spells cs t ↔ Written cs t := by
  constructor
  · rintro (⟨hh, hm, hour_lt, minute_lt⟩ | ⟨hh, hm, hs, hour_lt, minute_lt, second_lt⟩)
    · refine ⟨⟨hour_lt, minute_lt, by simp⟩, _, hh.hourText, ?_⟩
      rw [hm.eq_padded, secondsText, List.append_nil]
    · refine ⟨⟨hour_lt, minute_lt, by simpa using second_lt⟩, _, hh.hourText, ?_⟩
      rw [hm.eq_padded, hs.eq_padded, secondsText]
  · rintro ⟨⟨hour_lt, minute_lt, second_lt⟩, h, hh, rfl⟩
    obtain ⟨hour, minute, second⟩ := t
    simp only at hour_lt minute_lt second_lt hh
    have hh := hh.hourDigits (by omega)
    have hm := twoDigits_padded (by omega : minute < 100)
    cases second with
    | none =>
      rw [secondsText, List.append_nil]
      exact .minutes hh hm hour_lt minute_lt
    | some second =>
      have second_lt := second_lt second rfl
      exact .seconds hh hm (twoDigits_padded (by omega)) hour_lt minute_lt second_lt

/-! ## Blanks around a time -/

theorem TwoDigits.isDigit_of_mem (h : TwoDigits cs n) : ∀ c ∈ cs, c.isDigit = true := by
  rw [h.eq_padded]
  exact fun _ => isDigit_of_mem_padded

theorem HourDigits.isDigit_of_mem (h : HourDigits cs n) : ∀ c ∈ cs, c.isDigit = true := by
  rcases h with hones | hboth
  · simp [(isDigit_iff.mp hones).1]
  · exact hboth.isDigit_of_mem

/-- A time is spelled with digits and colons only. -/
theorem Spells.isBlank_of_mem (h : Spells cs t) : ∀ c ∈ cs, Text.isBlank c = false := by
  have hdigits : ∀ {ds : List Char}, (∀ c ∈ ds, c.isDigit = true) → ∀ c ∈ ds, Text.isBlank c = false :=
    fun h c hc => isBlank_of_isDigit (h c hc)
  have hcolon : Text.isBlank ':' = false := by decide
  rcases h with ⟨hh, hm, -, -⟩ | ⟨hh, hm, hs, -, -, -⟩
  · simp only [List.forall_mem_append, List.forall_mem_cons]
    exact ⟨hdigits hh.isDigit_of_mem, hcolon, hdigits hm.isDigit_of_mem⟩
  · simp only [List.forall_mem_append, List.forall_mem_cons]
    exact ⟨⟨hdigits hh.isDigit_of_mem, hcolon, hdigits hm.isDigit_of_mem⟩, hcolon,
      hdigits hs.isDigit_of_mem⟩

theorem Spells.trim_eq (h : Spells cs t) {before after : List Char}
    (hblank : ∀ c ∈ before ++ after, Text.isBlank c = true) :
    Text.trim (before ++ cs ++ after) = cs := by
  obtain ⟨hbefore, hafter⟩ := List.forall_mem_append.mp hblank
  have hne : cs ≠ [] := by cases h <;> simp
  rw [Text.trim, List.append_assoc, Text.trimStart_append hbefore, Text.trimEnd_append hafter]
  · exact fun c hc => h.isBlank_of_mem c (List.mem_of_getLast? hc)
  · rw [List.head?_append_of_ne_nil _ hne]
    exact fun c hc => h.isBlank_of_mem c (List.mem_of_head? hc)

/-! ## Writing a time as it was spelled -/

/-- A time is written as it was spelled exactly if the first colon comes third, after an hour of two
digits. -/
theorem Spells.text_eq_iff (h : Spells cs t) : t.text.toList = cs ↔ cs[2]? = some ':' := by
  obtain ⟨⟨hour_lt, -, -⟩, hour, hh, rfl⟩ := spells_iff.mp h
  have hlen : (padded 2 t.hour).length = 2 := length_padded (by omega)
  rw [toList_text]
  rcases hh.hourDigits (by omega) with hones | hboth
  · -- After an hour of one digit the third character is a digit of the minutes.
    obtain ⟨c, ms, hm⟩ := List.exists_cons_of_ne_nil (show padded 2 t.minute ≠ [] from padded_ne_nil)
    have hc : c ≠ ':' := by
      rintro rfl
      exact colon_notMem_padded t.minute (by simp [hm])
    refine iff_of_false (fun heq => ?_) (by simpa [hm] using hc)
    have hlength := congrArg List.length heq
    simp only [List.length_append, List.length_cons, List.length_nil, hlen] at hlength
    omega
  · rw [hboth.eq_padded]
    simp [hlen]

/-- The reader takes exactly the texts that spell a time of the clock with blanks around it, and gives
that time. Its written form is read back, and is the text itself, without the blanks, exactly if the hour
has two digits there. -/
theorem ofText?_iff_spells (s : String) (t : TimeOfDay) :
    (ofText? s = some t ↔
      ∃ before core after, s.toList = before ++ core ++ after ∧
        (∀ c ∈ before ++ after, Text.isBlank c = true) ∧ Spells core t) ∧
    (ofText? s = some t → ofText? t.text = some t ∧
      (t.text.toList = Text.trim s.toList ↔ (Text.trim s.toList)[2]? = some ':')) := by
  have hread : ofText? s = some t ↔ Spells (Text.trim s.toList) t :=
    ofText?_eq_some_iff.trans spells_iff.symm
  refine ⟨⟨fun h => ?_, ?_⟩, fun h => ⟨?_, (hread.mp h).text_eq_iff⟩⟩
  · obtain ⟨before, after, hs, hblank⟩ := Text.exists_eq_append_trim_append s.toList
    exact ⟨before, _, after, hs, hblank, hread.mp h⟩
  · rintro ⟨before, core, after, hs, hblank, hspells⟩
    rw [hread, hs, hspells.trim_eq hblank]
    exact hspells
  · rw [ofText?_text, if_pos (spells_iff.mp (hread.mp h)).1]

/-- An hour of one digit is read, and written with two. -/
theorem ofText?_oneDigitHour :
    ofText? "\t9:05 " = some ⟨9, 5, none⟩ ∧ ofText? (text ⟨9, 5, none⟩) = some ⟨9, 5, none⟩ ∧
      (text ⟨9, 5, none⟩).toList ≠ Text.trim "\t9:05 ".toList := by
  have hnine : IsDigit '9' 9 := ⟨by decide, rfl⟩
  have hzero : IsDigit '0' 0 := ⟨by decide, rfl⟩
  have hfive : IsDigit '5' 5 := ⟨by decide, rfl⟩
  have hspells : Spells ['9', ':', '0', '5'] ⟨9, 5, none⟩ :=
    .minutes (.one hnine) (.intro hzero hfive) (by decide) (by decide)
  obtain ⟨hiff, hback⟩ := ofText?_iff_spells "\t9:05 " ⟨9, 5, none⟩
  have hread := hiff.mpr ⟨['\t'], _, [' '], by decide, by simp [Text.isBlank], hspells⟩
  obtain ⟨hagain, hsame⟩ := hback hread
  exact ⟨hread, hagain, fun h => absurd (hsame.mp h) (by decide)⟩

end ReceiptRules.TimeOfDay
