import Mathlib.Data.List.DropRight
import ReceiptRules.Text.Blank

/-!
# Trimmed texts

What trimming takes away and what it leaves: a text is its trimmed form with trimmed characters around it,
and no other part of it that neither starts nor ends with one is left.
-/

namespace ReceiptRules.Text

variable {p : Char → Bool} {cs ds : List Char} {c : Char}

theorem exists_eq_append_trimStart (p : Char → Bool) (cs : List Char) :
    ∃ trimmed, cs = trimmed ++ trimStart p cs ∧ ∀ c ∈ trimmed, p c = true :=
  ⟨cs.takeWhile p, List.takeWhile_append_dropWhile.symm, fun _ => List.mem_takeWhile_imp⟩

theorem exists_eq_trimEnd_append (p : Char → Bool) (cs : List Char) :
    ∃ trimmed, cs = trimEnd p cs ++ trimmed ∧ ∀ c ∈ trimmed, p c = true :=
  ⟨cs.rtakeWhile p, List.rdropWhile_append_rtakeWhile.symm, fun _ => List.mem_rtakeWhile_imp⟩

/-- A text is its trimmed form with blanks around it. -/
theorem exists_eq_append_trim_append (cs : List Char) :
    ∃ before after, cs = before ++ trim cs ++ after ∧ ∀ c ∈ before ++ after, isBlank c = true := by
  obtain ⟨before, hstart, hbefore⟩ := exists_eq_append_trimStart isBlank cs
  obtain ⟨after, hend, hafter⟩ := exists_eq_trimEnd_append isBlank (trimStart isBlank cs)
  refine ⟨before, after, ?_, List.forall_mem_append.mpr ⟨hbefore, hafter⟩⟩
  rw [trim, List.append_assoc, ← hend, ← hstart]

theorem getLast?_trimEnd (h : (trimEnd p cs).getLast? = some c) : p c = false := by
  rw [trimEnd, List.getLast?_reverse] at h
  exact head?_trimStart h

theorem trimStart_append (hds : ∀ d ∈ ds, p d = true) (hhead : ∀ c ∈ cs.head?, p c = false) :
    trimStart p (ds ++ cs) = cs := by
  rw [trimStart, List.dropWhile_append_of_pos hds]
  cases cs with
  | nil => rfl
  | cons c cs => simp [hhead c rfl]

theorem trimEnd_append (hds : ∀ d ∈ ds, p d = true) (hlast : ∀ c ∈ cs.getLast?, p c = false) :
    trimEnd p (cs ++ ds) = cs := by
  have hreverse : trimStart p (ds.reverse ++ cs.reverse) = cs.reverse :=
    trimStart_append (by simpa using hds) (by rwa [List.head?_reverse])
  rw [trimEnd, List.reverse_append]
  rw [trimStart] at hreverse
  rw [hreverse, List.reverse_reverse]

end ReceiptRules.Text
