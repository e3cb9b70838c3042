import ReceiptRules.Proofs.Regex.Rows
import ReceiptRules.Regex.Meaning

/-!
# Texts as regular expressions

In a regular expression some characters are marks. With a backslash in front of each mark, any text is a
regular expression for the row of its characters: for exactly these characters, or for the same ones up to
case (`ofText?_escape`).
-/

namespace ReceiptRules.Regex

/-- The characters that are marks, outside or between brackets or in verbose expressions. -/
def isMark (c : Char) : Bool :=
  ['\\', '.', '+', '*', '?', '(', ')', '|', '[', ']', '\x7b', '\x7d', '^', '$', '#', '&', '-', '~'].contains c

/-- A text with a backslash in front of each mark. -/
def escape : List Char → List Char
  | [] => []
  | c :: cs => if isMark c then '\\' :: c :: escape cs else c :: escape cs

/-- The sets of a text's characters, up to case or not. -/
def literalSet (caseless : Bool) (c : Char) : CharSet := if caseless then .caseless c else .single c

variable {c : Char} {text : List Char}

/-! ## Reading -/

theorem readEscape?_of_isMark (h : isMark c = true) (rest : List Char) :
    readEscape? false (c :: rest) = some (.literal c false, rest) := by
  simp only [isMark, List.contains_iff_mem, List.mem_cons, List.not_mem_nil, or_false] at h
  rcases h with rfl | rfl | rfl | rfl | rfl | rfl | rfl | rfl | rfl | rfl | rfl | rfl | rfl | rfl |
    rfl | rfl | rfl | rfl <;> rfl

section Members

variable {r : Reading} (hr : r.verbose = false) (fuel : ℕ) (rest : List Char)

include hr

theorem readMembers?_mark (h : isMark c = true) :
    readMembers? (fuel + 1) r ('\\' :: c :: rest) =
      readMembers? fuel (r.add (.literal c false)) rest := by
  rw [readMembers?, skip, hr]
  simp only [Bool.false_eq_true, if_false]
  rw [readEscape?_of_isMark h]
  rfl

theorem readMembers?_literal (h : isMark c = false) :
    readMembers? (fuel + 1) r (c :: rest) = readMembers? fuel (r.add (.literal c false)) rest := by
  have hne : ∀ d, isMark d = true → c ≠ d := by
    rintro d hd rfl
    simp [h] at hd
  rw [readMembers?, skip, hr]
  simp only [Bool.false_eq_true, if_false]
  -- Each case but the last is one of a mark.
  split
  all_goals first | rfl | exact absurd rfl (hne _ rfl)

end Members

/-- Each character of a text is read as a member of its own. -/
theorem readMembers?_escape (text : List Char) {fuel : ℕ} (hfuel : text.length < fuel) {r : Reading}
    (hr : r.verbose = false) :
    readMembers? fuel r (escape text) =
      some ({ r with items := (text.map fun c => .literal c false).reverse ++ r.items }, []) := by
  induction text generalizing fuel r with
  | nil =>
    cases fuel with
    | zero => cases hfuel
    | succ fuel =>
      obtain ⟨verbose, names, alternatives, items⟩ := r
      obtain rfl : verbose = false := hr
      rfl
  | cons c cs ih =>
    cases fuel with
    | zero => cases hfuel
    | succ fuel =>
      have hread := ih (Nat.lt_of_succ_lt_succ hfuel) (r := r.add (.literal c false)) hr
      simp only [List.map_cons, List.reverse_cons, List.append_assoc, List.singleton_append]
      cases hc : isMark c with
      | true =>
        rw [escape, hc, if_pos rfl, readMembers?_mark hr fuel _ hc, hread]
        rfl
      | false =>
        rw [escape, hc, if_neg (by decide), readMembers?_literal hr fuel _ hc, hread]
        rfl

theorem length_le_length_escape (text : List Char) : text.length ≤ (escape text).length := by
  induction text with
  | nil => exact Nat.le_refl _
  | cons c cs ih =>
    rw [escape]
    split <;> simp only [List.length_cons] <;> omega

theorem concatDepth_row (text : List Char) :
    (Ast.ofRow (text.map fun c => .literal c false)).concatDepth = 0 := by
  induction text with
  | nil => rfl
  | cons c cs ih =>
    cases cs with
    | nil => rfl
    | cons d ds =>
      simp only [List.map_cons, Ast.ofRow, Ast.concatDepth, Ast.depth] at ih ⊢
      rw [ih]
      rfl

theorem depth_row_le (text : List Char) :
    (Ast.ofRow (text.map fun c => .literal c false)).depth ≤ nestingLimit := by
  match text with
  | [] => exact Nat.zero_le _
  | [c] => exact Nat.zero_le _
  | c :: d :: ds =>
    have hrest := concatDepth_row (d :: ds)
    simp only [List.map_cons] at hrest
    simp only [List.map_cons, Ast.ofRow, Ast.depth, hrest]
    decide

theorem ast_ofText?_escape (text : List Char) :
    Ast.ofText? (escape text) = some (Ast.ofRow (text.map fun c => .literal c false)) := by
  have hlength := length_le_length_escape text
  have hclose : ∀ items names, (Reading.mk false names [] items).close = Ast.ofRow items.reverse :=
    fun _ _ => rfl
  rw [Ast.ofText?, readMembers?_escape text (by omega) rfl]
  simp only [Option.bind_eq_bind, Option.bind_some, List.append_nil, hclose, List.reverse_reverse]
  rw [if_pos (depth_row_le text)]

/-! ## Meaning -/

theorem exists_meaning?_row {flags : Flags} (hunicode : flags.unicode = true) (text : List Char) :
    ∃ r, (Ast.ofRow (text.map fun c => .literal c false)).meaning? flags = some (r, flags) ∧
      IsRow r (text.map (literalSet flags.caseless)) := by
  have hliteral : ∀ c, literal? flags c false = some (set (literalSet flags.caseless c)) := by
    intro c
    rw [literal?, hunicode, if_pos rfl]
    rfl
  induction text with
  | nil => exact ⟨empty, rfl, isRow_empty⟩
  | cons c cs ih =>
    cases cs with
    | nil =>
      refine ⟨set (literalSet flags.caseless c), ?_, isRow_set _⟩
      simp only [List.map_cons, List.map_nil, Ast.ofRow, Ast.meaning?, hliteral, Option.map_some]
    | cons d ds =>
      obtain ⟨r, hr, hrow⟩ := ih
      refine ⟨seq (set (literalSet flags.caseless c)) r, ?_, hrow.cons _⟩
      simp only [List.map_cons] at hr
      simp only [List.map_cons, Ast.ofRow, Ast.meaning?, hliteral, hr, Option.map_some,
        Option.bind_eq_bind, Option.bind_some, Option.pure_def]

/-- The escaped form of a text is a regular expression for the row of its characters. -/
theorem ofText?_escape (caseless : Bool) (text : List Char) :
    ∃ r, ofText? caseless (escape text) = some r ∧ IsRow r (text.map (literalSet caseless)) := by
  have hunicode : (Flags.initial caseless).unicode = true := rfl
  obtain ⟨r, hr, hrow⟩ := exists_meaning?_row hunicode text
  refine ⟨r, ?_, hrow⟩
  rw [ofText?, ast_ofText?_escape]
  simp only [Option.bind_eq_bind, Option.bind_some, hr, Option.pure_def]

/-- In a row of literals stand the same characters, up to case or not. -/
theorem fits_literalSet (caseless : Bool) (s t : List Char) :
    Fits s (t.map (literalSet caseless)) ↔
      if caseless = true then Text.EqualUpToCase s t else s = t := by
  cases caseless with
  | true => exact fits_caseless s t
  | false => exact fits_single s t

end ReceiptRules.Regex
