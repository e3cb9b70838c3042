import ReceiptRules.Proofs.Json.Reader
import ReceiptRules.Proofs.Json5.WrittenValue

/-!
# JSON on one line

Each value that is written on one line is read back (`Written.ofText?_compact`), whatever characters are
in its strings and keys, and the line has no end inside it (`newline_notMem_compact`). What is read back
has the numbers of the value by their digits, and all else as it is.
-/

namespace ReceiptRules.Json

open Json5

mutual

/-- A value as it is written. -/
def written : Json → Written
  | null => .null
  | bool b => .bool b
  | number n => .number n.text
  | string s => .string s
  | array items => .array (writtenItems items)
  | object entries => .object (writtenEntries entries)

def writtenItems : List Json → List Written
  | [] => []
  | item :: items => item.written :: writtenItems items

def writtenEntries : List (String × Json) → List (String × Written)
  | [] => []
  | (key, value) :: entries => (key, value.written) :: writtenEntries entries

end

/-! ## Written strings -/

theorem escaped_of_notMem {c : Char} (h : c ∉ ['"', '\\', '\x08', '\x0c', '\n', '\r', '\t']) :
    escapedChar c = (if c.toNat < 0x20 then '\\' :: 'u' :: fourHexDigits c.toNat else [c]) ∧
      component c = if c.toNat < 0x20 then .unicode (fourHexDigits c.toNat) else .literal c := by
  simp only [List.mem_cons, List.not_mem_nil, or_false, not_or] at h
  obtain ⟨hquote, hescape, h₃, h₄, hn, hr, h₇⟩ := h
  constructor
  · unfold escapedChar
    split <;> first | contradiction | rfl
  · unfold component
    split <;> first | contradiction | rfl

namespace Written

theorem readComponents?_unicode {digits : List Char} (hlength : digits.length = 4)
    (hall : digits.all Text.Property.isAsciiHexDigit = true) (rest : List Char) :
    readComponents? ('\\' :: 'u' :: digits ++ rest) =
      (readComponents? rest).map fun (cs, rest) => (.unicode digits :: cs, rest) := by
  match digits with
  | [a, b, c, d] => exact if_pos hall

theorem readComponents?_literal {c : Char} (hcontrol : ¬ c.toNat < 0x20) (hquote : c ≠ '"')
    (hescape : c ≠ '\\') (rest : List Char) :
    readComponents? (c :: rest) =
      (readComponents? rest).map fun (cs, rest) => (.literal c :: cs, rest) := by
  rw [readComponents?]
  · simp [hcontrol, hescape]
  all_goals simp [hquote, hescape]

theorem readComponents?_escapedChar (c : Char) (rest : List Char) :
    readComponents? (escapedChar c ++ rest) =
      (readComponents? rest).map fun (cs, rest) => (component c :: cs, rest) := by
  by_cases hspecial : c ∈ ['"', '\\', '\x08', '\x0c', '\n', '\r', '\t']
  · simp only [List.mem_cons, List.not_mem_nil, or_false] at hspecial
    rcases hspecial with rfl | rfl | rfl | rfl | rfl | rfl | rfl <;> rfl
  · obtain ⟨hwritten, hcomponent⟩ := escaped_of_notMem hspecial
    rw [hwritten, hcomponent]
    by_cases hcontrol : c.toNat < 0x20
    · have hdigits : ∀ n < 0x20, (fourHexDigits n).length = 4 ∧
          (fourHexDigits n).all Text.Property.isAsciiHexDigit = true := by decide
      obtain ⟨hlength, hall⟩ := hdigits c.toNat hcontrol
      rw [if_pos hcontrol, if_pos hcontrol]
      exact readComponents?_unicode hlength hall rest
    · rw [if_neg hcontrol, if_neg hcontrol]
      simp only [List.mem_cons, not_or] at hspecial
      exact readComponents?_literal hcontrol hspecial.1 hspecial.2.1 rest

theorem readString?_quotedString (s : String) (rest : List Char) :
    readString? (s.toList.flatMap escapedChar ++ '"' :: rest) = some (s, rest) := by
  have hcomponents : ∀ cs : List Char,
      readComponents? (cs.flatMap escapedChar ++ '"' :: rest) = some (cs.map component, rest) := by
    intro cs
    induction cs with
    | nil => rfl
    | cons c cs ih => simp [readComponents?_escapedChar, ih]
  have hdecode := decodeString_components s
  rw [components] at hdecode
  simp [readString?, hcomponents, hdecode, Except.toOption]

/-! ## Written numbers -/

theorem dropDigits?_append {ds rest : List Char} (hne : ds ≠ []) (hds : ∀ d ∈ ds, d.isDigit = true)
    (hrest : NoDigit rest) : dropDigits? (ds ++ rest) = some rest := by
  obtain ⟨d, ds, rfl⟩ := List.exists_cons_of_ne_nil hne
  rw [List.forall_mem_cons] at hds
  have hspan := spanDigits_append hds.2 hrest
  have hdrop : (ds ++ rest).dropWhile Char.isDigit = rest := congrArg Prod.snd hspan
  simp [dropDigits?, hds.1, hdrop]

theorem dropWhole?_append {w rest : List Char} (hw : Whole w) (hrest : NoDigit rest) :
    dropWhole? (w ++ rest) = some rest := by
  cases hw with
  | zero => rfl
  | @digits c cs hhead hall =>
    have hdrop := dropDigits?_append (List.cons_ne_nil c cs) hall hrest
    rw [List.cons_append] at hdrop ⊢
    rw [dropWhole?, hdrop]
    exact fun rest heq => hhead (List.cons.inj heq).1

theorem dropFraction?_append {f rest : List Char} (hf : Fraction f) (hrest : NoDigit rest)
    (hpoint : ∀ more, rest ≠ '.' :: more) : dropFraction? (f ++ rest) = some rest := by
  cases hf with
  | none =>
    rw [List.nil_append, dropFraction?]
    exact hpoint
  | some hne hall => exact dropDigits?_append hne hall hrest

theorem dropExponent?_append {x rest : List Char} (hx : Exponent x) (hrest : Delimited rest) :
    dropExponent? (x ++ rest) = some rest := by
  cases hx with
  | none =>
    cases rest with
    | nil => rfl
    | cons c rest => rcases isDelimiter_cases (hrest c rfl) with rfl | rfl | rfl | rfl <;> rfl
  | some hsign hne hall =>
    have hdrop := dropDigits?_append hne hall hrest.noDigit
    rcases hsign with rfl | rfl <;> exact hdrop

theorem dropUnsigned?_append {m rest : List Char} (hm : Magnitude m) (hrest : Delimited rest) :
    dropUnsigned? (m ++ rest) = some rest := by
  cases hm with
  | @intro w f x hw hf hx =>
    have hxrest := hx.noDigit hrest
    simp [dropUnsigned?, dropWhole?_append hw (hf.noDigit hxrest),
      dropFraction?_append hf hxrest (hx.ne_point hrest), dropExponent?_append hx hrest]

/-- A number is read as far as the mark behind it. -/
theorem readNumber?_append {t rest : List Char} (ht : Numeral t) (hrest : Delimited rest) :
    readNumber? (t ++ rest) = some (String.ofList t, rest) := by
  have hdrop : dropNumber? (t ++ rest) = some rest := by
    cases ht with
    | negative hm => exact dropUnsigned?_append hm hrest
    | unsigned hm =>
      have hunsigned := dropUnsigned?_append hm hrest
      obtain ⟨c, cs, rfl, hc⟩ := hm.exists_cons
      rw [List.cons_append] at hunsigned ⊢
      rw [dropNumber?, hunsigned]
      intro rest heq
      rw [(List.cons.inj heq).1] at hc
      exact absurd hc (by decide)
  simp [readNumber?, hdrop]

/-! ## Written values -/

theorem skipBlanks_cons {c : Char} (h : isBlank c = false) (cs : List Char) :
    skipBlanks (c :: cs) = c :: cs := by
  simp [skipBlanks, h]

/-- Numbers start with a sign or a digit, and so unlike any other value. -/
theorem exists_numeral_cons {t : List Char} (ht : Numeral t) :
    ∃ c cs, t = c :: cs ∧ (c = '-' ∨ c.isDigit = true) := by
  cases ht with
  | negative hm => exact ⟨'-', _, rfl, .inl rfl⟩
  | unsigned hm =>
    obtain ⟨c, cs, rfl, hc⟩ := hm.exists_cons
    exact ⟨c, cs, rfl, .inr hc⟩

theorem ne_of_numeralStart {c d : Char} (hc : c = '-' ∨ c.isDigit = true)
    (hd : d ≠ '-' ∧ d.isDigit = false) : c ≠ d := by
  rintro rfl
  rcases hc with rfl | hc
  · exact hd.1 rfl
  · rw [hc] at hd
    exact absurd hd.2 (by decide)

theorem isBlank_of_numeralStart {c : Char} (hc : c = '-' ∨ c.isDigit = true) :
    isBlank c = false := by
  have hne : ∀ d ∈ [' ', '\t', '\n', '\r'], c ≠ d := by
    intro d hd
    apply ne_of_numeralStart hc
    simp only [List.mem_cons, List.not_mem_nil, or_false] at hd
    rcases hd with rfl | rfl | rfl | rfl <;> decide
  simp_all [isBlank]

/-- A written value starts with a character that is neither a blank nor a closing bracket. -/
theorem exists_write_eq_cons (j : Json) :
    ∃ c cs, j.write none = c :: cs ∧ isBlank c = false ∧ c ≠ ']' := by
  cases j with
  | null => exact ⟨'n', _, rfl, rfl, by decide⟩
  | bool b => cases b <;> exact ⟨_, _, rfl, rfl, by decide⟩
  | number n =>
    obtain ⟨c, cs, htext, hc⟩ := exists_numeral_cons n.numeral_text
    exact ⟨c, cs, htext, isBlank_of_numeralStart hc, ne_of_numeralStart hc (by decide)⟩
  | string s => exact ⟨'"', _, rfl, rfl, by decide⟩
  | array items => cases items <;> exact ⟨'[', _, rfl, rfl, by decide⟩
  | object entries => cases entries <;> exact ⟨'\x7b', _, rfl, rfl, by decide⟩

theorem readValue?_number {t rest : List Char} (ht : Numeral t) (hrest : Delimited rest) (fuel : ℕ) :
    readValue? (fuel + 1) (t ++ rest) = some (.number (String.ofList t), rest) := by
  have hread := readNumber?_append ht hrest
  obtain ⟨c, cs, rfl, hc⟩ := exists_numeral_cons ht
  rw [List.cons_append] at hread ⊢
  rw [readValue?, skipBlanks_cons (isBlank_of_numeralStart hc)]
  split
  case h_7 => rw [hread, Option.map_some]
  all_goals
    next heq => exact absurd (List.cons.inj heq).1 (ne_of_numeralStart hc (by decide))

theorem readValue?_string (s : String) (rest : List Char) (fuel : ℕ) :
    readValue? (fuel + 1) (quotedString s ++ rest) = some (.string s, rest) := by
  have hread := readString?_quotedString s rest
  have hquoted : quotedString s ++ rest = '"' :: (s.toList.flatMap escapedChar ++ '"' :: rest) := by
    simp [quotedString]
  rw [hquoted, readValue?, skipBlanks_cons rfl]
  simp only [hread, Option.map_some]

/-! Each step of the reader, in front of what is read already. -/

section
variable {fuel : ℕ} {cs rest rest' : List Char}

theorem readValue?_array {c : Char} {items : List Written} (hblank : isBlank c = false) (hc : c ≠ ']')
    (h : readItems? fuel (c :: cs) = some (items, rest)) :
    readValue? (fuel + 1) ('[' :: c :: cs) = some (.array items, rest) := by
  rw [readValue?, skipBlanks_cons rfl]
  simp only [skipBlanks_cons hblank]
  split
  case h_1 heq => exact absurd (List.cons.inj heq).1 hc
  case h_2 => rw [h, Option.map_some]

theorem readValue?_object {entries : List (String × Written)}
    (h : readEntries? fuel ('"' :: cs) = some (entries, rest)) :
    readValue? (fuel + 1) ('\x7b' :: '"' :: cs) = some (.object entries, rest) := by
  rw [readValue?, skipBlanks_cons rfl]
  simp only [skipBlanks_cons (c := '"') rfl]
  split
  case h_1 heq => exact absurd (List.cons.inj heq).1 (by decide)
  case h_2 => rw [h, Option.map_some]

theorem readItems?_comma {item : Written} {items : List Written}
    (hitem : readValue? fuel cs = some (item, ',' :: rest))
    (hitems : readItems? fuel rest = some (items, rest')) :
    readItems? (fuel + 1) cs = some (item :: items, rest') := by
  simp [readItems?, hitem, skipBlanks_cons (c := ',') rfl, hitems]

theorem readItems?_close {item : Written} (hitem : readValue? fuel cs = some (item, ']' :: rest)) :
    readItems? (fuel + 1) cs = some ([item], rest) := by
  simp [readItems?, hitem, skipBlanks_cons (c := ']') rfl]

theorem readEntries?_comma {key : String} {value : Written} {entries : List (String × Written)}
    (hvalue : readValue? fuel cs = some (value, ',' :: rest))
    (hentries : readEntries? fuel rest = some (entries, rest')) :
    readEntries? (fuel + 1) (quotedString key ++ ':' :: cs) = some ((key, value) :: entries, rest') := by
  simp [readEntries?, quotedString, skipBlanks_cons, isBlank, readString?_quotedString, hvalue, hentries]

theorem readEntries?_close {key : String} {value : Written}
    (hvalue : readValue? fuel cs = some (value, '\x7d' :: rest)) :
    readEntries? (fuel + 1) (quotedString key ++ ':' :: cs) = some ([(key, value)], rest) := by
  simp [readEntries?, quotedString, skipBlanks_cons, isBlank, readString?_quotedString, hvalue]

end

/-- A written value is read as far as the mark behind it, with more fuel than it has characters. -/
def ReadsWritten (j : Json) : Prop :=
  ∀ {rest : List Char} {fuel : ℕ}, (j.write none).length < fuel → Delimited rest →
    readValue? fuel (j.write none ++ rest) = some (j.written, rest)

mutual

theorem readsWritten (j : Json) : ReadsWritten j := by
  intro rest fuel hfuel hrest
  obtain ⟨fuel, rfl⟩ : ∃ m, fuel = m + 1 := ⟨fuel - 1, by omega⟩
  cases j with
  | null => rfl
  | bool b => cases b <;> rfl
  | number n =>
    rw [write, readValue?_number n.numeral_text hrest, written, String.ofList_toList]
  | string s => exact readValue?_string s rest fuel
  | array items =>
    cases items with
    | nil => rfl
    | cons item items =>
      have hlength : (item.write none ++ writeItems none items).length + 1 < fuel := by
        simp [write, lineBreak] at hfuel ⊢
        omega
      have hitems := readItems?_write items (readsWritten item) hlength rest
      obtain ⟨c, cs, hitem, hblank, hclose⟩ := exists_write_eq_cons item
      simp only [hitem, List.cons_append] at hitems
      simpa [write, lineBreak, hitem, written, writtenItems] using readValue?_array hblank hclose hitems
  | object entries =>
    rcases entries with _ | ⟨⟨key, value⟩, entries⟩
    · rfl
    · have hlength : (quotedString key ++ ':' :: value.write none ++
          writeEntries none entries).length + 1 < fuel := by
        simp [write, lineBreak, colon] at hfuel ⊢
        omega
      have hentries := readEntries?_write key entries (readsWritten value) hlength rest
      simp only [quotedString, List.cons_append] at hentries
      simpa [write, lineBreak, colon, quotedString, written, writtenEntries]
        using readValue?_object hentries

theorem readItems?_write (items : List Json) {item : Json} (hread : ReadsWritten item) {fuel : ℕ}
    (hfuel : (item.write none ++ writeItems none items).length + 1 < fuel) (rest : List Char) :
    readItems? fuel (item.write none ++ writeItems none items ++ ']' :: rest) =
      some (item.written :: writtenItems items, rest) := by
  obtain ⟨fuel, rfl⟩ : ∃ m, fuel = m + 1 := ⟨fuel - 1, by omega⟩
  rw [List.length_append] at hfuel
  have hitem := hread (by omega : (item.write none).length < fuel)
    (delimited_writeItems items none (delimited_cons (c := ']') rfl rest))
  rw [List.append_assoc]
  cases items with
  | nil => exact readItems?_close hitem
  | cons next items =>
    have hlength : (next.write none ++ writeItems none items).length + 1 < fuel := by
      simp [writeItems, lineBreak] at hfuel ⊢
      omega
    have hitems := readItems?_write items (readsWritten next) hlength rest
    simp only [writeItems, lineBreak, List.nil_append, List.cons_append] at hitem ⊢
    exact readItems?_comma hitem hitems

theorem readEntries?_write (key : String) (entries : List (String × Json)) {value : Json}
    (hread : ReadsWritten value) {fuel : ℕ}
    (hfuel : (quotedString key ++ ':' :: value.write none ++ writeEntries none entries).length + 1 <
      fuel) (rest : List Char) :
    readEntries? fuel
        (quotedString key ++ ':' :: value.write none ++ writeEntries none entries ++ '\x7d' :: rest) =
      some ((key, value.written) :: writtenEntries entries, rest) := by
  obtain ⟨fuel, rfl⟩ : ∃ m, fuel = m + 1 := ⟨fuel - 1, by omega⟩
  simp only [List.length_append, List.length_cons] at hfuel
  have hvalue := hread (by omega : (value.write none).length < fuel)
    (delimited_writeEntries entries none (delimited_cons (c := '\x7d') rfl rest))
  simp only [List.append_assoc, List.cons_append]
  rcases entries with _ | ⟨⟨next, nextValue⟩, entries⟩
  · exact readEntries?_close hvalue
  · have hlength : (quotedString next ++ ':' :: nextValue.write none ++
        writeEntries none entries).length + 1 < fuel := by
      simp [writeEntries, lineBreak, colon] at hfuel ⊢
      omega
    have hentries := readEntries?_write next entries (readsWritten nextValue) hlength rest
    simp only [writeEntries, lineBreak, colon, List.nil_append, List.cons_append, List.append_assoc]
      at hvalue hentries ⊢
    exact readEntries?_comma hvalue hentries

end

/-- Each value is read back from its text on one line. -/
theorem ofText?_compact (j : Json) : ofText? j.compact = some j.written := by
  have hread : readValue? ((j.write none).length + 1) (j.write none ++ []) = some (j.written, []) :=
    readsWritten j (Nat.lt_succ_self _) delimited_nil
  rw [List.append_nil] at hread
  rw [ofText?, compact, String.toList_ofList, hread]
  rfl

end Written

/-! ## Ends of lines -/

theorem newline_notMem_escapedChar (c : Char) : '\n' ∉ escapedChar c := by
  by_cases hspecial : c ∈ ['"', '\\', '\x08', '\x0c', '\n', '\r', '\t']
  · simp only [List.mem_cons, List.not_mem_nil, or_false] at hspecial
    rcases hspecial with rfl | rfl | rfl | rfl | rfl | rfl | rfl <;> decide
  · rw [(escaped_of_notMem hspecial).1]
    by_cases hcontrol : c.toNat < 0x20
    · have hdigits : ∀ n < 0x20, '\n' ∉ '\\' :: 'u' :: fourHexDigits n := by decide
      rw [if_pos hcontrol]
      exact hdigits c.toNat hcontrol
    · rw [if_neg hcontrol, List.mem_singleton]
      rintro rfl
      exact hcontrol (by decide)

theorem newline_notMem_quotedString (s : String) : '\n' ∉ quotedString s := by
  simp [quotedString, newline_notMem_escapedChar]

theorem newline_notMem_numeral {t : List Char} (ht : Numeral t) : '\n' ∉ t := by
  have hdigits : ∀ {ds : List Char}, (∀ d ∈ ds, d.isDigit = true) → '\n' ∉ ds := fun hds hmem =>
    absurd (hds '\n' hmem) (by decide)
  have hmagnitude : ∀ {m : List Char}, Magnitude m → '\n' ∉ m := by
    intro m hm
    cases hm with
    | intro hw hf hx =>
      simp only [List.mem_append, not_or]
      refine ⟨⟨?_, ?_⟩, ?_⟩
      · cases hw with
        | zero => decide
        | digits _ hall => exact hdigits hall
      · cases hf with
        | none => decide
        | some _ hall => simp [hdigits hall]
      · cases hx with
        | none => decide
        | some hsign _ hall => rcases hsign with rfl | rfl <;> simp [hdigits hall]
  cases ht with
  | unsigned hm => exact hmagnitude hm
  | negative hm => simp [hmagnitude hm]

mutual

theorem newline_notMem_write (j : Json) : '\n' ∉ j.write none := by
  cases j with
  | null => decide
  | bool b => cases b <;> decide
  | number n => exact newline_notMem_numeral n.numeral_text
  | string s => exact newline_notMem_quotedString s
  | array items =>
    cases items with
    | nil => decide
    | cons item items =>
      simp [write, lineBreak, newline_notMem_write item, newline_notMem_writeItems items]
  | object entries =>
    rcases entries with _ | ⟨⟨key, value⟩, entries⟩
    · decide
    · simp [write, lineBreak, colon, newline_notMem_quotedString, newline_notMem_write value,
        newline_notMem_writeEntries entries]

theorem newline_notMem_writeItems (items : List Json) : '\n' ∉ writeItems none items := by
  cases items with
  | nil => decide
  | cons item items =>
    simp [writeItems, lineBreak, newline_notMem_write item, newline_notMem_writeItems items]

theorem newline_notMem_writeEntries (entries : List (String × Json)) :
    '\n' ∉ writeEntries none entries := by
  rcases entries with _ | ⟨⟨key, value⟩, entries⟩
  · decide
  · simp [writeEntries, lineBreak, colon, newline_notMem_quotedString, newline_notMem_write value,
      newline_notMem_writeEntries entries]

end

/-- The text of a value on one line has no end of a line inside it, whatever strings are in it. -/
theorem newline_notMem_compact (j : Json) : '\n' ∉ j.compact.toList := by
  rw [compact, String.toList_ofList]
  exact newline_notMem_write j

end ReceiptRules.Json
