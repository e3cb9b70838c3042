import Mathlib.Tactic.Common
import ReceiptRules.Text.LetterCase

/-!
# Occurrences of a text in a line

A text stands in a line wherever a run of characters is the same as the text up to case. Occurrences may
overlap. `Counted` picks those that a count from left to right comes upon, each after the end of the one
before.
-/

namespace ReceiptRules.Text

/-- Whether two texts are the same character by character, up to case. -/
def EqualUpToCase (s t : List Char) : Prop := s.map fold = t.map fold

instance (s t : List Char) : Decidable (EqualUpToCase s t) :=
  inferInstanceAs (Decidable (s.map fold = t.map fold))

/-- Whether a text stands in a line at a position, up to case. -/
def OccursAt (text line : List Char) (i : ℕ) : Prop :=
  EqualUpToCase ((line.drop i).take text.length) text

instance (text line : List Char) (i : ℕ) : Decidable (OccursAt text line i) :=
  inferInstanceAs (Decidable (EqualUpToCase _ text))

variable {s t text line : List Char} {i : ℕ}

theorem EqualUpToCase.length_eq (h : EqualUpToCase s t) : s.length = t.length := by
  simpa using congrArg List.length h

/-- A run of characters in a line, with the parts of the line around it. -/
theorem run_iff_exists {fits : List Char → Prop} {n : ℕ} (hlength : ∀ s, fits s → s.length = n)
    (hn : 0 < n) :
    fits ((line.drop i).take n) ↔
      ∃ before found after, line = before ++ found ++ after ∧ before.length = i ∧ fits found := by
  constructor
  · intro h
    have hrun := hlength _ h
    rw [List.length_take, List.length_drop] at hrun
    refine ⟨line.take i, (line.drop i).take n, (line.drop i).drop n, ?_, ?_, h⟩
    · rw [List.append_assoc, List.take_append_drop, List.take_append_drop]
    · rw [List.length_take]
      omega
  · intro h
    rcases h with ⟨before, found, after, rfl, rfl, hfound⟩
    rw [List.append_assoc, List.drop_left, ← hlength found hfound, List.take_left]
    exact hfound

theorem occursAt_iff_exists (htext : text ≠ []) :
    OccursAt text line i ↔ ∃ before found after, line = before ++ found ++ after ∧
      before.length = i ∧ EqualUpToCase found text :=
  run_iff_exists (fun _ => EqualUpToCase.length_eq) (List.length_pos_iff.mpr htext)

/-! ## Counting from left to right -/

/-- The occurrences that are counted from left to right: those that begin at the end of each counted one
before them, or later. `occurs` says where runs of the given length stand. -/
def Counted (occurs : ℕ → Prop) (length : ℕ) (i : ℕ) : Prop :=
  occurs i ∧ ∀ j, j < i → Counted occurs length j → j + length ≤ i
termination_by i

variable {occurs : ℕ → Prop} {length j : ℕ}

theorem Counted.isOccurrence (h : Counted occurs length i) : occurs i := by
  rw [Counted] at h
  exact h.1

/-- Counted occurrences do not overlap. -/
theorem Counted.end_le (h : Counted occurs length i) (hj : Counted occurs length j) (hlt : j < i) :
    j + length ≤ i := by
  rw [Counted] at h
  exact h.2 j hlt hj

/-- An occurrence that overlaps none before it is counted. -/
theorem counted_of_forall (hi : occurs i) (h : ∀ j, j < i → occurs j → j + length ≤ i) :
    Counted occurs length i := by
  rw [Counted]
  exact ⟨hi, fun j hj hcounted => h j hj hcounted.isOccurrence⟩

/-- Whether no counted occurrence that begins before a position goes beyond it. -/
def IsBoundary (occurs : ℕ → Prop) (length : ℕ) (i : ℕ) : Prop :=
  ∀ j, j < i → Counted occurs length j → j + length ≤ i

theorem isBoundary_zero : IsBoundary occurs length 0 := fun j hj => absurd hj (by omega)

theorem Counted.isBoundary_end (h : Counted occurs length i) :
    IsBoundary occurs length (i + length) := by
  intro j hj hcounted
  rcases Nat.lt_or_ge i j with hlt | hle
  · exact absurd (hcounted.end_le h hlt) (by omega)
  · omega

/-- The first occurrence after a boundary is counted. -/
theorem IsBoundary.counted_of_first (h : IsBoundary occurs length i) (hle : i ≤ j) (hj : occurs j)
    (hfirst : ∀ k, i ≤ k → k < j → ¬ occurs k) : Counted occurs length j := by
  rw [Counted]
  refine ⟨hj, fun k hk hcounted => ?_⟩
  rcases Nat.lt_or_ge k i with hlt | hge
  · have := h k hlt hcounted
    omega
  · exact absurd hcounted.isOccurrence (hfirst k hge hk)

/-- After a boundary the counted occurrences are the first one and those that are counted after it. -/
theorem IsBoundary.counted_iff (h : IsBoundary occurs length i) (hle : i ≤ j) (hj : occurs j)
    (hfirst : ∀ k, i ≤ k → k < j → ¬ occurs k) {k : ℕ} :
    i ≤ k ∧ Counted occurs length k ↔
      k = j ∨ j + length ≤ k ∧ Counted occurs length k := by
  have hcounted := h.counted_of_first hle hj hfirst
  constructor
  · rintro ⟨hik, hk⟩
    rcases Nat.lt_trichotomy k j with hlt | rfl | hgt
    · exact absurd hk.isOccurrence (hfirst k hik hlt)
    · exact .inl rfl
    · exact .inr ⟨hk.end_le hcounted hgt, hk⟩
  · rintro (rfl | ⟨hend, hk⟩)
    · exact ⟨hle, hcounted⟩
    · exact ⟨by omega, hk⟩

end ReceiptRules.Text
