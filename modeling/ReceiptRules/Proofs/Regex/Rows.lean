import Mathlib.Data.List.Forall2
import ReceiptRules.Proofs.Text.Occurrence
import ReceiptRules.Regex.Search

/-!
# Expressions for a row of characters

An expression for a row matches one character of each of its sets, one after the other, as the expression
for a phrase does. Such an expression has one match at most from any place. So the search finds a line if
the row stands anywhere in it (`IsRow.isMatch_iff`), and its matches are the occurrences of the row that are
counted from left to right (`IsRow.exists_mem_matchEnds_iff`).
-/

namespace ReceiptRules.Regex

open Text (Counted IsBoundary)

/-- Whether the characters of a text are in the sets of a row, one by one. -/
def Fits (text : List Char) (sets : List CharSet) : Prop :=
  List.Forall₂ (fun c s => s.contains c = true) text sets

instance (text : List Char) (sets : List CharSet) : Decidable (Fits text sets) :=
  inferInstanceAs (Decidable (List.Forall₂ _ text sets))

/-- The end of the match of a row from a place, if there is one. -/
def rowEnds : List CharSet → Cursor → List Cursor
  | [], c => [c]
  | s :: sets, ⟨_, x :: rest⟩ => if s.contains x then rowEnds sets ⟨some x, rest⟩ else []
  | _ :: _, ⟨_, []⟩ => []

/-- Whether an expression matches the row and nothing else. -/
def IsRow (r : Regex) (sets : List CharSet) : Prop := ∀ c, r.ends c = rowEnds sets c

/-- Whether a row stands in a line at a position. -/
def RowAt (sets : List CharSet) (line : List Char) (i : ℕ) : Prop :=
  Fits ((line.drop i).take sets.length) sets

variable {r : Regex} {s : CharSet} {sets : List CharSet} {text line rest : List Char}
  {previous : Option Char} {i : ℕ}

/-! ## Which expressions are rows -/

theorem isRow_empty : IsRow empty [] := fun _ => rfl

theorem distinct_rowEnds (sets : List CharSet) (c : Cursor) :
    distinct (rowEnds sets c) = rowEnds sets c := by
  induction sets generalizing c with
  | nil => rfl
  | cons s sets ih =>
    obtain ⟨previous, _ | ⟨x, rest⟩⟩ := c
    · rfl
    · rw [rowEnds]
      split
      · exact ih ⟨some x, rest⟩
      · rfl

theorem isRow_set (s : CharSet) : IsRow (set s) [s] := by
  rintro ⟨previous, _ | ⟨x, rest⟩⟩
  · rfl
  · rfl

theorem IsRow.cons (h : IsRow r sets) (s : CharSet) : IsRow (seq (set s) r) (s :: sets) := by
  rintro ⟨previous, _ | ⟨x, rest⟩⟩
  · rfl
  · rw [ends, ends, rowEnds]
    split
    · rw [List.flatMap_singleton, h, distinct_rowEnds]
    · rfl

theorem isRow_phrase (text : List Char) : IsRow (phrase text) (text.map .caseless) := by
  induction text with
  | nil => exact isRow_empty
  | cons c cs ih => exact ih.cons (.caseless c)

/-! ## Which texts fit -/

@[simp] theorem fits_nil : Fits [] [] := .nil

@[simp] theorem fits_cons {x : Char} :
    Fits (x :: text) (s :: sets) ↔ s.contains x = true ∧ Fits text sets := List.forall₂_cons

@[simp] theorem not_fits_nil_cons : ¬ Fits [] (s :: sets) := nofun

theorem Fits.length_eq (h : Fits text sets) : text.length = sets.length := List.Forall₂.length_eq h

theorem fits_caseless (s t : List Char) : Fits s (t.map .caseless) ↔ Text.EqualUpToCase s t := by
  rw [Fits, List.forall₂_map_right_iff, Text.EqualUpToCase, ← List.forall₂_eq_eq_eq,
    List.forall₂_map_left_iff, List.forall₂_map_right_iff]
  simp only [CharSet.contains_caseless, beq_iff_eq]

/-- The row of a phrase stands where the phrase does. -/
theorem rowAt_caseless (text line : List Char) :
    RowAt (text.map .caseless) line = Text.OccursAt text line := by
  funext i
  rw [RowAt, List.length_map, fits_caseless, Text.OccursAt]

theorem fits_single (s t : List Char) : Fits s (t.map .single) ↔ s = t := by
  have hsingle : ∀ c d : Char, (CharSet.single d).contains c = true ↔ c = d := by
    intro c d
    rw [CharSet.single, CharSet.contains, Bool.and_eq_true, decide_eq_true_iff, decide_eq_true_iff]
    exact ⟨fun h => Char.le_antisymm h.2 h.1, fun h => h ▸ ⟨Char.le_refl _, Char.le_refl _⟩⟩
  rw [Fits, List.forall₂_map_right_iff]
  simp only [hsingle, List.forall₂_eq_eq_eq]

theorem rowAt_drop (j : ℕ) : RowAt sets (line.drop i) j ↔ RowAt sets line (i + j) := by
  rw [RowAt, RowAt, List.drop_drop]

theorem RowAt.end_le (h : RowAt sets line i) (hsets : sets ≠ []) :
    i + sets.length ≤ line.length := by
  have hlength := h.length_eq
  have hpos := List.length_pos_iff.mpr hsets
  rw [List.length_take, List.length_drop] at hlength
  omega

/-! ## Searching for a row -/

theorem IsRow.rest_end? (h : IsRow r sets) (c : Cursor) :
    (r.end? c).map Cursor.rest =
      if Fits (c.rest.take sets.length) sets then some (c.rest.drop sets.length) else none := by
  rw [end?, h]
  clear h
  induction sets generalizing c with
  | nil => simp [rowEnds]
  | cons s sets ih =>
    obtain ⟨previous, _ | ⟨x, rest⟩⟩ := c
    · simp [rowEnds]
    · by_cases hx : s.contains x
      · simpa [rowEnds, hx] using ih ⟨some x, rest⟩
      · simp [rowEnds, hx]

theorem IsRow.not_rowAt_zero (h : IsRow r sets) (hend : r.end? ⟨previous, line⟩ = none) :
    ¬ RowAt sets line 0 := by
  intro hrow
  have hfits : Fits (line.take sets.length) sets := hrow
  have hrest := h.rest_end? ⟨previous, line⟩
  rw [hend, if_pos hfits] at hrest
  cases hrest

theorem IsRow.rowAt_zero {e : Cursor} (h : IsRow r sets)
    (hend : r.end? ⟨previous, line⟩ = some e) :
    RowAt sets line 0 ∧ e.rest = line.drop sets.length := by
  have hrest := h.rest_end? ⟨previous, line⟩
  rw [hend, Option.map_some] at hrest
  split at hrest
  · next hrow => exact ⟨hrow, Option.some.inj hrest⟩
  · cases hrest

theorem IsRow.not_rowAt_of_firstMatch? (h : IsRow r sets)
    (hnone : r.firstMatch? previous line = none) (i : ℕ) : ¬ RowAt sets line i := by
  induction line generalizing previous i with
  | nil =>
    rw [firstMatch?, Option.map_eq_none_iff] at hnone
    simpa [RowAt] using h.not_rowAt_zero hnone
  | cons x rest ih =>
    rw [firstMatch?] at hnone
    split at hnone
    · cases hnone
    · next hend =>
      cases i with
      | zero => exact h.not_rowAt_zero hend
      | succ i => exact ih hnone i

/-- The first match is at the first position where the row stands. -/
theorem IsRow.exists_of_firstMatch? {s e : Cursor} (h : IsRow r sets)
    (hsome : r.firstMatch? previous line = some (s, e)) :
    ∃ i, RowAt sets line i ∧ (∀ j, j < i → ¬ RowAt sets line j) ∧ s.rest = line.drop i ∧
      e.rest = line.drop (i + sets.length) := by
  induction line generalizing previous with
  | nil =>
    rw [firstMatch?, Option.map_eq_some_iff] at hsome
    obtain ⟨e', hend, heq⟩ := hsome
    cases heq
    obtain ⟨hrow, hrest⟩ := h.rowAt_zero hend
    exact ⟨0, hrow, fun j hj => absurd hj (by omega), rfl, by rw [hrest, Nat.zero_add]⟩
  | cons x rest ih =>
    rw [firstMatch?] at hsome
    split at hsome
    · next e' hend =>
      cases hsome
      obtain ⟨hrow, hrest⟩ := h.rowAt_zero hend
      exact ⟨0, hrow, fun j hj => absurd hj (by omega), rfl, by rw [hrest, Nat.zero_add]⟩
    · next hend =>
      obtain ⟨i, hrow, hfirst, hs, he⟩ := ih hsome
      refine ⟨i + 1, hrow, fun j hj => ?_, hs, by rw [he, Nat.add_right_comm, List.drop_succ_cons]⟩
      cases j with
      | zero => exact h.not_rowAt_zero hend
      | succ j => exact hfirst j (by omega)

theorem IsRow.isMatch_iff (h : IsRow r sets) :
    r.isMatch line = true ↔ ∃ i, RowAt sets line i := by
  rw [isMatch]
  cases hmatch : r.firstMatch? none line with
  | none => simpa using h.not_rowAt_of_firstMatch? hmatch
  | some m =>
    obtain ⟨i, hrow, -⟩ := h.exists_of_firstMatch? hmatch
    simpa using ⟨i, hrow⟩

/-- A line is found if a run of characters in it fits the row. -/
theorem IsRow.isMatch_iff_infix (h : IsRow r sets) (hsets : sets ≠ []) :
    r.isMatch line = true ↔ ∃ found, found <:+: line ∧ Fits found sets := by
  have hrun : ∀ i, RowAt sets line i ↔ ∃ before found after, line = before ++ found ++ after ∧
      before.length = i ∧ Fits found sets := fun i =>
    Text.run_iff_exists (fun _ => Fits.length_eq) (List.length_pos_iff.mpr hsets)
  simp only [h.isMatch_iff, hrun]
  constructor
  · intro hmatch
    rcases hmatch with ⟨i, before, found, after, rfl, -, hfits⟩
    exact ⟨found, ⟨before, after, rfl⟩, hfits⟩
  · intro hmatch
    rcases hmatch with ⟨found, ⟨before, after, rfl⟩, hfits⟩
    exact ⟨before.length, before, found, after, rfl, rfl, hfits⟩

/-- No match of a row is empty, so right after a match the search goes on as it began. -/
theorem IsRow.nextMatch?_eq (h : IsRow r sets) (hsets : sets ≠ []) (afterMatch : Bool) (c : Cursor) :
    r.nextMatch? afterMatch c = r.firstMatch? c.previous c.rest := by
  rw [nextMatch?]
  split
  · next hnone => rw [hnone]
  · next s e hsome =>
    obtain ⟨i, hrow, -, hs, he⟩ := h.exists_of_firstMatch? hsome
    have hend := hrow.end_le hsets
    have hpos := List.length_pos_iff.mpr hsets
    have hlength : s.rest.length ≠ e.rest.length := by
      rw [hs, he, List.length_drop, List.length_drop]
      omega
    rw [hsome, beq_eq_false_iff_ne.mpr hlength]
    simp

/-- From a boundary on, matches are the counted occurrences. The induction is on the fuel, which is more
than the number of characters that are left; a match takes at least one of them. -/
theorem IsRow.exists_mem_matchEndsFrom_iff (h : IsRow r sets) (hsets : sets ≠ []) (fuel : ℕ)
    {afterMatch : Bool} {c : Cursor} (hc : c.rest = line.drop i) (hi : i ≤ line.length)
    (hboundary : IsBoundary (RowAt sets line) sets.length i) (hfuel : line.length - i < fuel) :
    (∃ e ∈ r.matchEndsFrom fuel afterMatch c, e.rest = rest) ↔
      ∃ j, (i ≤ j ∧ Counted (RowAt sets line) sets.length j) ∧ line.drop (j + sets.length) = rest := by
  induction fuel generalizing afterMatch c i with
  | zero => omega
  | succ fuel ih =>
    rw [matchEndsFrom, h.nextMatch?_eq hsets]
    split
    · next hnone =>
      have hno : ∀ j, i ≤ j → ¬ Counted (RowAt sets line) sets.length j := by
        intro j hj hcounted
        apply h.not_rowAt_of_firstMatch? hnone (j - i)
        rw [hc, rowAt_drop, Nat.add_sub_cancel' hj]
        exact hcounted.isOccurrence
      simp only [List.not_mem_nil, false_and, exists_false, false_iff, not_exists, not_and]
      exact fun j hj => absurd hj.2 (hno j hj.1)
    · next s e hsome =>
      obtain ⟨n, hrow, hfirst, -, he⟩ := h.exists_of_firstMatch? hsome
      rw [hc, rowAt_drop] at hrow
      rw [hc, List.drop_drop, ← Nat.add_assoc] at he
      have hnone : ∀ k, i ≤ k → k < i + n → ¬ RowAt sets line k := by
        intro k hik hk hat
        apply hfirst (k - i) (by omega)
        rwa [hc, rowAt_drop, Nat.add_sub_cancel' hik]
      have hcounted := hboundary.counted_of_first (by omega) hrow hnone
      have hend := hrow.end_le hsets
      have hpos := List.length_pos_iff.mpr hsets
      simp only [List.exists_mem_cons_iff, hboundary.counted_iff (by omega) hrow hnone, or_and_right,
        exists_or, exists_eq_left, ih he hend hcounted.isBoundary_end (by omega), he]

theorem IsRow.exists_mem_matchEnds_iff (h : IsRow r sets) (hsets : sets ≠ []) :
    (∃ e ∈ r.matchEnds line, e.rest = rest) ↔
      ∃ j, Counted (RowAt sets line) sets.length j ∧ line.drop (j + sets.length) = rest := by
  have hstart : (Cursor.start line).rest = line.drop 0 := rfl
  rw [matchEnds, h.exists_mem_matchEndsFrom_iff hsets (line.length + 1) hstart (Nat.zero_le _)
    Text.isBoundary_zero (by omega)]
  simp only [Nat.zero_le, true_and]

end ReceiptRules.Regex
