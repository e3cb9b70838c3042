import Mathlib.Tactic.Common
import ReceiptRules.Json.Writer
import ReceiptRules.Json5.Lexer
import ReceiptRules.Json5.Literal

/-!
# JSON strings as JSON5

A string that is written as JSON is read as JSON5 one component for each character, and the components
stand for the string. There are two characters that JSON writes as they are and that end a line of JSON5:
a string with one of them is written, but cannot be read.
-/

namespace ReceiptRules.Json

open Json5

/-- The two characters that may stand in a JSON string as they are, but not in one of JSON5. -/
def isSeparator (c : Char) : Bool := c == '\u2028' || c == '\u2029'

/-- Strings that can be read as they are written. -/
def Plain (s : String) : Prop := s.toList.any isSeparator = false

instance (s : String) : Decidable (Plain s) := inferInstanceAs (Decidable (_ = false))

/-- What a character of a string is written as. -/
def component (c : Char) : Component :=
  match c with
  | '"' => .escape '"'
  | '\\' => .escape '\\'
  | '\x08' => .escape 'b'
  | '\x0c' => .escape 'f'
  | '\n' => .escape 'n'
  | '\r' => .escape 'r'
  | '\t' => .escape 't'
  | c => if c.toNat < 0x20 then .unicode (fourHexDigits c.toNat) else .literal c

/-- What a string is written as. -/
def components (s : String) : List Component := s.toList.map component

/-! ## Reading components -/

theorem takeHexDigits?_fourHexDigits {n : ℕ} (h : n < 0x20) (rest : List Char) :
    takeHexDigits? 4 (fourHexDigits n ++ rest) = some (fourHexDigits n, rest) := by
  have hdigits : ∀ n < 0x20, (fourHexDigits n).length = 4 ∧
      (fourHexDigits n).all Text.Property.isAsciiHexDigit = true := by decide
  obtain ⟨hlength, hall⟩ := hdigits n h
  simp [takeHexDigits?, List.take_left' hlength, List.drop_left' hlength, hlength, hall]

/-- The forms in which a character is written: as it is, with a backslash in front, or by its number. -/
inductive Spelled (c : Char) : List Char → Component → Prop
  | literal (quote : c ≠ '"') (escape : c ≠ '\\') (line : isLineTerminator c = isSeparator c) :
      Spelled c [c] (.literal c)
  | escape {e : Char} (value : escapedValue e = c) (separator : isSeparator c = false)
      (read : ∀ rest, readEscape? (e :: rest) = some (some (.escape e), rest)) :
      Spelled c ['\\', e] (.escape e)
  | unicode (control : c.toNat < 0x20) :
      Spelled c ('\\' :: 'u' :: fourHexDigits c.toNat) (.unicode (fourHexDigits c.toNat))

theorem spelled (c : Char) : Spelled c (escapedChar c) (component c) := by
  by_cases hspecial : c ∈ ['"', '\\', '\x08', '\x0c', '\n', '\r', '\t']
  · simp only [List.mem_cons, List.not_mem_nil, or_false] at hspecial
    rcases hspecial with rfl | rfl | rfl | rfl | rfl | rfl | rfl <;>
      exact .escape rfl rfl fun _ => rfl
  · simp only [List.mem_cons, List.not_mem_nil, or_false, not_or] at hspecial
    obtain ⟨hquote, hescape, h₃, h₄, hn, hr, h₇⟩ := hspecial
    have hwritten : escapedChar c =
        if c.toNat < 0x20 then '\\' :: 'u' :: fourHexDigits c.toNat else [c] := by
      unfold escapedChar
      split <;> first | contradiction | rfl
    have hcomponent : component c =
        if c.toNat < 0x20 then .unicode (fourHexDigits c.toNat) else .literal c := by
      unfold component
      split <;> first | contradiction | rfl
    rw [hwritten, hcomponent]
    by_cases hcontrol : c.toNat < 0x20
    · rw [if_pos hcontrol, if_pos hcontrol]
      exact .unicode hcontrol
    · rw [if_neg hcontrol, if_neg hcontrol]
      refine .literal hquote hescape ?_
      rw [isLineTerminator, beq_false_of_ne hn, beq_false_of_ne hr]
      rfl

theorem isSeparator_of_lt {c : Char} (h : c.toNat < 0x20) : isSeparator c = false := by
  simp only [isSeparator, Bool.or_eq_false_iff, beq_eq_false_iff_ne]
  constructor <;>
  · rintro rfl
    exact absurd h (by decide)

theorem readString?_escape {written rest : List Char} {c : Component} (fuel : ℕ)
    (h : readEscape? (written ++ rest) = some (some c, rest)) :
    readString? '"' (fuel + 1) ('\\' :: written ++ rest) =
      (readString? '"' fuel rest).map fun (cs, rest) => (c :: cs, rest) := by
  rw [List.cons_append, readString?, if_neg (by decide), if_pos rfl, h]
  cases hrest : readString? '"' fuel rest <;> simp [hrest]

theorem readString?_literal {c : Char} (fuel : ℕ) (rest : List Char) (hquote : c ≠ '"')
    (hescape : c ≠ '\\') :
    readString? '"' (fuel + 1) (c :: rest) =
      if isLineTerminator c then none
      else (readString? '"' fuel rest).map fun (cs, rest) => (.literal c :: cs, rest) := by
  rw [readString?, if_neg hquote, if_neg hescape]
  cases readString? '"' fuel rest <;> simp

/-- A written character is read as one component, unless it ends a line of JSON5. -/
theorem Spelled.readString? {c : Char} {written : List Char} {d : Component}
    (h : Spelled c written d) (fuel : ℕ) (rest : List Char) :
    readString? '"' (fuel + 1) (written ++ rest) =
      if isSeparator c then none
      else (Json5.readString? '"' fuel rest).map fun (cs, rest) => (d :: cs, rest) := by
  cases h with
  | literal hquote hescape hline =>
    rw [← hline]
    exact readString?_literal fuel rest hquote hescape
  | escape value hseparator hread =>
    rw [hseparator]
    exact readString?_escape fuel (hread rest)
  | unicode hcontrol =>
    rw [isSeparator_of_lt hcontrol]
    refine readString?_escape fuel ?_
    simp [readEscape?, takeHexDigits?_fourHexDigits hcontrol]

/-- A written string is read up to its closing quote if no separator is in it, and not at all
otherwise. -/
theorem readString?_quoted (cs : List Char) {fuel : ℕ} (h : cs.length < fuel) (rest : List Char) :
    readString? '"' fuel (cs.flatMap escapedChar ++ '"' :: rest) =
      if cs.any isSeparator = false then some (cs.map component, rest) else none := by
  induction cs generalizing fuel with
  | nil =>
    obtain ⟨fuel, rfl⟩ := Nat.exists_eq_add_of_lt h
    simp [readString?]
  | cons c cs ih =>
    obtain ⟨fuel, rfl⟩ : ∃ m, fuel = m + 1 := ⟨fuel - 1, by omega⟩
    rw [List.flatMap_cons, List.append_assoc, (spelled c).readString?, ih (by simpa using h),
      List.any_cons]
    cases isSeparator c with
    | true => simp
    | false => cases cs.any isSeparator <;> simp

theorem Spelled.ne_nil {c : Char} {written : List Char} {d : Component} (h : Spelled c written d) :
    written ≠ [] := by
  cases h <;> exact List.cons_ne_nil _ _

theorem length_le_flatMap_escapedChar (cs : List Char) :
    cs.length ≤ (cs.flatMap escapedChar).length := by
  induction cs with
  | nil => exact Nat.le_refl _
  | cons c cs ih =>
    have hc : 0 < (escapedChar c).length := List.length_pos_iff.mpr (spelled c).ne_nil
    rw [List.flatMap_cons, List.length_cons, List.length_append]
    omega

/-- A written string is a token if it is plain, and starts none otherwise. -/
theorem readToken?_quoted (s : String) (rest : List Char) :
    readToken? '"' (s.toList.flatMap escapedChar ++ '"' :: rest) =
      if Plain s then some (.string (components s), rest) else none := by
  have hlength : s.toList.length < (s.toList.flatMap escapedChar ++ '"' :: rest).length + 1 := by
    have := length_le_flatMap_escapedChar s.toList
    rw [List.length_append, List.length_cons]
    omega
  have htoken : ∀ cs, readToken? '"' cs =
      (readString? '"' (cs.length + 1) cs).map fun (components, rest) =>
        (.string components, rest) := fun _ => rfl
  rw [htoken, readString?_quoted s.toList hlength rest, apply_ite (Option.map _)]
  rfl

/-! ## Meaning -/

theorem hexValue?_fourHexDigits {n : ℕ} (h : n < 0x20) : hexValue? (fourHexDigits n) = some n := by
  have hvalue : ∀ n < 0x20, hexValue? (fourHexDigits n) = some n := by decide
  exact hvalue n h

/-- What a character is written as stands for the character. -/
theorem Spelled.decode {c : Char} {written : List Char} {d : Component} (h : Spelled c written d)
    (rest : List Component) : decode (d :: rest) = (Json5.decode rest).map (c :: ·) := by
  cases h with
  | literal => rfl
  | escape hvalue => rw [Json5.decode, hvalue]
  | unicode hcontrol =>
    have hvalue : (Component.unicode (fourHexDigits c.toNat)).hexValue = .ok c.toNat := by
      simp [Component.hexValue, Component.written, hexValue?_fourHexDigits hcontrol]
    have htrail : isTrailSurrogate c.toNat = false := by
      simp [isTrailSurrogate]
      omega
    have hlead : isLeadSurrogate c.toNat = false := by
      simp [isLeadSurrogate]
      omega
    rw [Json5.decode]
    simp [hvalue, bind, Except.bind, htrail, hlead]

@[simp] theorem decodeString_components (s : String) : decodeString (components s) = .ok s := by
  have hdecode : ∀ cs : List Char, decode (cs.map component) = .ok cs := by
    intro cs
    induction cs with
    | nil => rfl
    | cons c cs ih =>
      rw [List.map_cons, (spelled c).decode, ih]
      rfl
  rw [decodeString, components, hdecode]
  simp [Except.map]

end ReceiptRules.Json
