import Mathlib.Tactic.Common
import Mathlib.Tactic.IntervalCases
import ReceiptRules.Json5.Value
import ReceiptRules.Json.Writer

/-!
# JSON numbers as JSON5

A JSON number is written with digits of which the first is no superfluous zero, and may have a fraction
and an exponent. Such a text is read as one token if a mark or the end of a line comes after it.
-/

namespace ReceiptRules.Json5

/-! ## What comes after a value -/

/-- The characters that may follow a value that is written as JSON. -/
def isDelimiter (c : Char) : Bool := c == ',' || c == ']' || c == '\x7d' || c == '\n'

/-- The rest of a text ends what stands in front of it. -/
def Delimited (rest : List Char) : Prop := ∀ c ∈ rest.head?, isDelimiter c = true

theorem delimited_nil : Delimited [] := by simp [Delimited]

theorem delimited_cons {c : Char} (h : isDelimiter c = true) (rest : List Char) :
    Delimited (c :: rest) := by simp [Delimited, h]

theorem isDelimiter_cases {c : Char} (h : isDelimiter c = true) :
    c = ',' ∨ c = ']' ∨ c = '\x7d' ∨ c = '\n' := by
  simpa [isDelimiter, or_assoc] using h

/-! ## Digits, fractions and exponents -/

/-- The digits before a point. -/
inductive Whole : List Char → Prop
  | zero : Whole ['0']
  | digits {c : Char} {cs : List Char} (head : c ≠ '0') (all : ∀ d ∈ c :: cs, d.isDigit = true) :
      Whole (c :: cs)

/-- Nothing, or a point and digits. -/
inductive Fraction : List Char → Prop
  | none : Fraction []
  | some {ds : List Char} (nonempty : ds ≠ []) (all : ∀ d ∈ ds, d.isDigit = true) :
      Fraction ('.' :: ds)

/-- Nothing, or an exponent with a sign. -/
inductive Exponent : List Char → Prop
  | none : Exponent []
  | some {s : Char} {ds : List Char} (sign : s = '+' ∨ s = '-') (nonempty : ds ≠ [])
      (all : ∀ d ∈ ds, d.isDigit = true) : Exponent ('e' :: s :: ds)

/-- Digits end here. -/
def NoDigit (rest : List Char) : Prop := ∀ c ∈ rest.head?, c.isDigit = false

theorem Delimited.noDigit {rest : List Char} (h : Delimited rest) : NoDigit rest := by
  intro c hc
  rcases isDelimiter_cases (h c hc) with rfl | rfl | rfl | rfl <;> rfl

theorem spanDigits_append {ds rest : List Char} (hds : ∀ d ∈ ds, d.isDigit = true)
    (hrest : NoDigit rest) : spanDigits (ds ++ rest) = (ds, rest) := by
  have htake : rest.takeWhile Char.isDigit = [] := by
    cases rest with
    | nil => rfl
    | cons c rest => simp [hrest c rfl]
  have hdrop : rest.dropWhile Char.isDigit = rest := by
    cases rest with
    | nil => rfl
    | cons c rest => simp [hrest c rfl]
  rw [spanDigits, List.takeWhile_append_of_pos hds, List.dropWhile_append_of_pos hds, htake, hdrop,
    List.append_nil]

theorem spanExponent_append {x rest : List Char} (hx : Exponent x) (hrest : Delimited rest) :
    spanExponent (x ++ rest) = (x, rest) := by
  cases hx with
  | none =>
    cases rest with
    | nil => rfl
    | cons c rest =>
      have hc := hrest c rfl
      rcases isDelimiter_cases hc with rfl | rfl | rfl | rfl <;> rfl
  | @some s ds hsign hne hall =>
    obtain ⟨d, ds, rfl⟩ := List.exists_cons_of_ne_nil hne
    have hspan := spanDigits_append hall hrest.noDigit
    have hs : (s = '+' || s = '-') = true := by
      simpa using hsign
    simp only [List.cons_append] at hspan ⊢
    simp only [spanExponent, hs, if_true, hspan]
    simp

theorem spanWhole_append {w rest : List Char} (hw : Whole w) (hrest : NoDigit rest) :
    spanWhole (w ++ rest) = (w, rest) := by
  cases hw with
  | zero => rfl
  | @digits c cs hhead hall =>
    rw [List.cons_append, spanWhole, if_neg hhead]
    exact spanDigits_append hall hrest

theorem Exponent.noDigit {x rest : List Char} (hx : Exponent x) (hrest : Delimited rest) :
    NoDigit (x ++ rest) := by
  cases hx with
  | none => exact hrest.noDigit
  | some =>
    intro c hc
    obtain rfl : 'e' = c := Option.some.inj hc
    rfl

theorem Fraction.noDigit {f rest : List Char} (hf : Fraction f) (hrest : NoDigit rest) :
    NoDigit (f ++ rest) := by
  cases hf with
  | none => exact hrest
  | some =>
    intro c hc
    obtain rfl : '.' = c := Option.some.inj hc
    rfl

theorem Exponent.ne_point {x rest : List Char} (hx : Exponent x) (hrest : Delimited rest)
    (more : List Char) : x ++ rest ≠ '.' :: more := by
  intro h
  cases hx with
  | none =>
    rw [List.nil_append] at h
    have hpoint := hrest '.' (by simp [h])
    cases hpoint
  | some => cases h

theorem readDecimal?_append {w f x rest : List Char} (hw : Whole w) (hf : Fraction f)
    (hx : Exponent x) (hrest : Delimited rest) :
    readDecimal? (w ++ f ++ x ++ rest) = some (w ++ f ++ x, rest) := by
  have hspan := spanWhole_append hw (hf.noDigit (hx.noDigit hrest))
  have hexponent := spanExponent_append hx hrest
  obtain ⟨c, cs, rfl⟩ : ∃ c cs, w = c :: cs := by cases hw <;> exact ⟨_, _, rfl⟩
  simp only [List.append_assoc] at hspan ⊢
  cases hf with
  | none =>
    have hpoint := hx.ne_point hrest
    rw [readDecimal?, hspan]
    simp only [List.nil_append, hexponent]
  | @some ds hne hall =>
    have hdigits := spanDigits_append hall (hx.noDigit hrest)
    rw [readDecimal?, hspan]
    simp [hdigits, hexponent]

/-- The first of the digits before a point, and what may come after it. -/
theorem Whole.exists_cons {w : List Char} (hw : Whole w) :
    ∃ c cs, w = c :: cs ∧ c.isDigit = true ∧ (c = '0' → cs = []) := by
  cases hw with
  | zero => exact ⟨'0', [], rfl, rfl, fun _ => rfl⟩
  | @digits c cs hhead hall => exact ⟨c, cs, rfl, hall c (by simp), fun h => absurd h hhead⟩

theorem readHexadecimal?_of_ne {c : Char} (h : c ≠ '0') (cs : List Char) :
    readHexadecimal? (c :: cs) = none := by
  unfold readHexadecimal?
  split
  · next heq => exact absurd (List.cons.inj heq).1 h
  · rfl

theorem readHexadecimal?_zero {cs : List Char} (h : ∀ c ∈ cs.head?, c ≠ 'x' ∧ c ≠ 'X') :
    readHexadecimal? ('0' :: cs) = none := by
  cases cs with
  | nil => rfl
  | cons c cs =>
    obtain ⟨hx, hX⟩ := h c rfl
    simp [readHexadecimal?, hx, hX]

/-- A zero in front is followed by a point, an exponent or the end of the number. -/
theorem readHexadecimal?_append {w f x rest : List Char} (hw : Whole w) (hf : Fraction f)
    (hx : Exponent x) (hrest : Delimited rest) : readHexadecimal? (w ++ f ++ x ++ rest) = none := by
  obtain ⟨c, cs, rfl, -, hzero⟩ := hw.exists_cons
  simp only [List.append_assoc, List.cons_append]
  by_cases hc : c = '0'
  · obtain rfl := hzero hc
    subst hc
    refine readHexadecimal?_zero ?_
    intro d hd
    cases hf with
    | some =>
      obtain rfl : '.' = d := Option.some.inj hd
      decide
    | none =>
      cases hx with
      | some =>
        obtain rfl : 'e' = d := Option.some.inj hd
        decide
      | none => rcases isDelimiter_cases (hrest d hd) with rfl | rfl | rfl | rfl <;> decide
  · exact readHexadecimal?_of_ne hc _

theorem readNumberWord?_eq_none {c : Char} (h : c.isDigit = true) (cs : List Char) :
    readNumberWord? (c :: cs) = none := by
  have hI : c ≠ 'I' := by
    rintro rfl
    cases h
  have hN : c ≠ 'N' := by
    rintro rfl
    cases h
  simp [readNumberWord?, infinityWord, nanWord, List.isPrefixOf, hI.symm, hN.symm]

/-! ## Numerals -/

/-- The texts of numbers without a sign. -/
inductive Magnitude : List Char → Prop
  | intro {w f x : List Char} (whole : Whole w) (fraction : Fraction f) (exponent : Exponent x) :
      Magnitude (w ++ f ++ x)

/-- The texts of JSON numbers. -/
inductive Numeral : List Char → Prop
  | unsigned {m : List Char} (magnitude : Magnitude m) : Numeral m
  | negative {m : List Char} (magnitude : Magnitude m) : Numeral ('-' :: m)

theorem Magnitude.exists_cons {m : List Char} (h : Magnitude m) :
    ∃ c cs, m = c :: cs ∧ c.isDigit = true := by
  cases h with
  | intro hw hf hx =>
    obtain ⟨c, cs, rfl, hc, -⟩ := hw.exists_cons
    exact ⟨c, _, rfl, hc⟩

theorem readUnsigned?_append {m rest : List Char} (h : Magnitude m) (hrest : Delimited rest) :
    readUnsigned? (m ++ rest) = some (m, rest) := by
  have hword : readNumberWord? (m ++ rest) = none := by
    obtain ⟨c, cs, rfl, hc⟩ := h.exists_cons
    exact readNumberWord?_eq_none hc _
  cases h with
  | intro hw hf hx =>
    rw [readUnsigned?, readHexadecimal?_append hw hf hx hrest, hword,
      readDecimal?_append hw hf hx hrest]
    rfl

theorem toNat_of_isDigit {c : Char} (h : c.isDigit = true) : 48 ≤ c.toNat ∧ c.toNat ≤ 57 := by
  simpa [Char.isDigit, UInt32.le_iff_toNat_le] using h

theorem mem_digits {c : Char} (h : c.isDigit = true) :
    c ∈ ['0', '1', '2', '3', '4', '5', '6', '7', '8', '9'] := by
  have hrange := toNat_of_isDigit h
  simp only [List.mem_cons, List.not_mem_nil, or_false, ← Char.toNat_inj]
  simp
  omega

/-- What a digit can start is a number. -/
theorem readToken?_of_isDigit {c : Char} (h : c.isDigit = true) (cs : List Char) :
    isSpace c = false ∧ c ≠ '/' ∧
      readToken? c cs = (readUnsigned? (c :: cs)).map fun (text, rest) => (.number text, rest) := by
  have hcases := mem_digits h
  simp only [List.mem_cons, List.not_mem_nil, or_false] at hcases
  rcases hcases with rfl | rfl | rfl | rfl | rfl | rfl | rfl | rfl | rfl | rfl <;>
    exact ⟨rfl, by decide, rfl⟩

/-- A number is read as one token. -/
theorem Numeral.readToken? {text rest : List Char} (h : Numeral text) (hrest : Delimited rest) :
    ∃ c cs, text = c :: cs ∧ isSpace c = false ∧ c ≠ '/' ∧
      Json5.readToken? c (cs ++ rest) = some (.number text, rest) := by
  cases h with
  | unsigned magnitude =>
    have hread := readUnsigned?_append magnitude hrest
    obtain ⟨c, cs, rfl, hc⟩ := magnitude.exists_cons
    obtain ⟨hspace, hslash, htoken⟩ := readToken?_of_isDigit hc (cs ++ rest)
    refine ⟨c, cs, rfl, hspace, hslash, ?_⟩
    rw [htoken, ← List.cons_append, hread]
    rfl
  | negative magnitude =>
    refine ⟨'-', _, rfl, by decide, by decide, ?_⟩
    rw [Json5.readToken?, readUnsigned?_append magnitude hrest]
    rfl

/-! ## Characters of numbers -/

/-- The characters that numbers are written with. -/
def isNumberChar (c : Char) : Bool :=
  c.isDigit || c == '.' || c == 'e' || c == '+' || c == '-'

theorem isNumberChar_of_isDigit {c : Char} (h : c.isDigit = true) : isNumberChar c = true := by
  simp [isNumberChar, h]

theorem Whole.isDigit {w : List Char} (hw : Whole w) : ∀ c ∈ w, c.isDigit = true := by
  cases hw with
  | zero => simp
  | digits _ all => exact all

theorem Fraction.isNumberChar {f : List Char} (hf : Fraction f) :
    ∀ c ∈ f, Json5.isNumberChar c = true := by
  cases hf with
  | none => simp
  | some _ all => exact List.forall_mem_cons.mpr ⟨rfl, fun c hc => isNumberChar_of_isDigit (all c hc)⟩

theorem Exponent.isNumberChar {x : List Char} (hx : Exponent x) :
    ∀ c ∈ x, Json5.isNumberChar c = true := by
  cases hx with
  | none => simp
  | some sign _ all =>
    refine List.forall_mem_cons.mpr ⟨rfl, List.forall_mem_cons.mpr ⟨?_, ?_⟩⟩
    · rcases sign with rfl | rfl <;> rfl
    · exact fun c hc => isNumberChar_of_isDigit (all c hc)

theorem Magnitude.isNumberChar {m : List Char} (h : Magnitude m) :
    ∀ c ∈ m, Json5.isNumberChar c = true := by
  cases h with
  | intro hw hf hx =>
    refine List.forall_mem_append.mpr ⟨List.forall_mem_append.mpr ⟨?_, hf.isNumberChar⟩, hx.isNumberChar⟩
    exact fun c hc => isNumberChar_of_isDigit (hw.isDigit c hc)

theorem Numeral.isNumberChar {text : List Char} (h : Numeral text) :
    ∀ c ∈ text, Json5.isNumberChar c = true := by
  cases h with
  | unsigned magnitude => exact magnitude.isNumberChar
  | negative magnitude => exact List.forall_mem_cons.mpr ⟨rfl, magnitude.isNumberChar⟩

theorem Numeral.notMem {text : List Char} (h : Numeral text) {c : Char}
    (hc : Json5.isNumberChar c = false) : c ∉ text := by
  intro hmem
  rw [h.isNumberChar c hmem] at hc
  cases hc

/-- The text of a number in JSON is neither hexadecimal nor a word. -/
theorem Numeral.hexDigits?_eq_none {text : List Char} (h : Numeral text) : hexDigits? text = none := by
  have hx := h.notMem (c := 'x') rfl
  have hX := h.notMem (c := 'X') rfl
  unfold hexDigits?
  split
  · simp at hx
  · simp at hX
  · rfl

theorem Numeral.wordValue?_eq_none {text : List Char} (h : Numeral text) : wordValue? text = none := by
  have hI := h.notMem (c := 'I') rfl
  have hN := h.notMem (c := 'N') rfl
  unfold wordValue?
  split_ifs with h₁ h₂ h₃
  · simp [h₁, infinityWord] at hI
  · simp [h₂, infinityWord] at hI
  · rcases (by simpa using h₃ : text = nanWord ∨ text = '-' :: nanWord) with rfl | rfl <;>
      simp [nanWord] at hN
  · rfl

/-- A number counts as an integer if it has neither a point nor an exponent. -/
theorem Numeral.isInteger_iff {text : List Char} (h : Numeral text) :
    isInteger text = true ↔ '.' ∉ text ∧ 'e' ∉ text := by
  have hE := h.notMem (c := 'E') rfl
  simp [isInteger, h.hexDigits?_eq_none, h.wordValue?_eq_none, hE]

/-! ## The digits of a number -/

theorem exists_toDigits_cons {n : ℕ} (h : 0 < n) :
    ∃ c cs, Nat.toDigits 10 n = c :: cs ∧ c ≠ '0' := by
  induction n using Nat.strongRecOn with
  | ind n ih =>
    by_cases hn : n < 10
    · refine ⟨_, [], Nat.toDigits_of_lt_base hn, ?_⟩
      interval_cases n <;> decide
    · obtain ⟨c, cs, hcs, hc⟩ := ih (n / 10) (by omega) (by omega)
      rw [Nat.toDigits_of_base_le (by omega) (by omega), hcs]
      exact ⟨c, _, rfl, hc⟩

theorem isDigit_of_mem_toDigits {n : ℕ} : ∀ c ∈ Nat.toDigits 10 n, c.isDigit = true := fun _ hc =>
  Nat.isDigit_of_mem_toDigits (by omega) (by omega) hc

theorem whole_toDigits (n : ℕ) : Whole (Nat.toDigits 10 n) := by
  rcases Nat.eq_zero_or_pos n with rfl | hn
  · exact .zero
  · obtain ⟨c, cs, hcs, hc⟩ := exists_toDigits_cons hn
    rw [hcs]
    exact .digits hc fun d hd => isDigit_of_mem_toDigits d (hcs ▸ hd)

theorem decimalValue?_toDigits (n : ℕ) : decimalValue? (Nat.toDigits 10 n) = some n := by
  have hall : (Nat.toDigits 10 n).all Char.isDigit = true := List.all_eq_true.mpr isDigit_of_mem_toDigits
  have hne : (Nat.toDigits 10 n).isEmpty = false := by simp [Nat.toDigits_ne_nil]
  rw [decimalValue?, hall, hne]
  exact congrArg some Nat.ofDigitChars_ten_toDigits

/-! ## Integers -/

theorem toString_toList (n : ℤ) :
    (toString n).toList =
      if n < 0 then '-' :: Nat.toDigits 10 n.natAbs else Nat.toDigits 10 n.natAbs := by
  cases n with
  | ofNat n => simp [toString, Int.repr, Nat.repr]
  | negSucc n => simp [toString, Int.repr, Nat.repr, Int.negSucc_lt_zero]

theorem numeral_toString (n : ℤ) : Numeral (toString n).toList := by
  have hmagnitude : Magnitude (Nat.toDigits 10 n.natAbs) := by
    simpa using Magnitude.intro (whole_toDigits n.natAbs) .none .none
  rw [toString_toList]
  split_ifs
  · exact .negative hmagnitude
  · exact .unsigned hmagnitude

theorem splitSign_of_isDigit {c : Char} (h : c.isDigit = true) (cs : List Char) :
    splitSign (c :: cs) = (false, c :: cs) := by
  unfold splitSign
  split
  · next heq =>
    obtain rfl := (List.cons.inj heq).1
    cases h
  · next heq =>
    obtain rfl := (List.cons.inj heq).1
    cases h
  · rfl

theorem splitSign_toString (n : ℤ) :
    splitSign (toString n).toList = (decide (n < 0), Nat.toDigits 10 n.natAbs) := by
  rw [toString_toList]
  by_cases hn : n < 0
  · simp [hn, splitSign]
  · obtain ⟨c, cs, hcs, hc, -⟩ := (whole_toDigits n.natAbs).exists_cons
    simp [hn, hcs, splitSign_of_isDigit hc]

/-- A written integer is read back if it has at most 63 bits and a sign. -/
theorem numberValue_toString (n : ℤ) :
    numberValue (toString n).toList =
      if IsInteger64 n then .ok (Json.ofInt n) else .error .malformedInteger := by
  have h := numeral_toString n
  have hinteger : isInteger (toString n).toList = true := by
    have hmem : ∀ c ∈ (toString n).toList, c = '-' ∨ c.isDigit = true := by
      rw [toString_toList]
      split_ifs
      · simpa using fun c hc => Or.inr (isDigit_of_mem_toDigits c hc)
      · exact fun c hc => .inr (isDigit_of_mem_toDigits c hc)
    rw [h.isInteger_iff]
    constructor <;>
    · intro hc
      rcases hmem _ hc with heq | heq <;> cases heq
  have hvalue : (if n < 0 then -(n.natAbs : ℤ) else (n.natAbs : ℤ)) = n := by
    split_ifs <;> omega
  rw [numberValue, if_pos hinteger, integerValue, h.hexDigits?_eq_none, splitSign_toString]
  simp only [decimalValue?_toDigits, decide_eq_true_eq, hvalue]
  split_ifs <;> rfl

/-! ## Doubles -/

end ReceiptRules.Json5
