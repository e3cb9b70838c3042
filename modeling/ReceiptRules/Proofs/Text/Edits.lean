import Mathlib.Order.Bounds.Basic
import Mathlib.Order.MinMax
import Mathlib.Tactic.Common
import ReceiptRules.Text.EditDistance

/-!
# Edits

The edit distance between two lists is the least number of single edits, one after the other, that turn
the one into the other (`isLeast_editDistance`). Elements in front that are the same need no edit, because
one element more or less on either side changes the distance by one at most (`editDistance_cons_left`).
-/

namespace ReceiptRules.Text

variable {α : Type} {n : ℕ} {xs ys zs : List α}

/-! ## Chains of edits -/

/-- One edit: an element is put in, taken out or replaced. -/
inductive Edit : List α → List α → Prop
  | insert (before after : List α) (y : α) : Edit (before ++ after) (before ++ y :: after)
  | delete (before after : List α) (x : α) : Edit (before ++ x :: after) (before ++ after)
  | substitute (before after : List α) (x y : α) : Edit (before ++ x :: after) (before ++ y :: after)

/-- A number of edits, one after the other. -/
inductive Edits : ℕ → List α → List α → Prop
  | refl (xs : List α) : Edits 0 xs xs
  | tail {n : ℕ} {xs ys zs : List α} (edits : Edits n xs ys) (edit : Edit ys zs) : Edits (n + 1) xs zs

theorem Edit.cons (x : α) (h : Edit xs ys) : Edit (x :: xs) (x :: ys) := by
  cases h with
  | insert before after y => exact .insert (x :: before) after y
  | delete before after y => exact .delete (x :: before) after y
  | substitute before after y z => exact .substitute (x :: before) after y z

theorem Edits.cons (x : α) (h : Edits n xs ys) : Edits n (x :: xs) (x :: ys) := by
  induction h with
  | refl => exact .refl _
  | tail _ edit ih => exact .tail ih (edit.cons x)

theorem Edits.head (edit : Edit xs ys) (h : Edits n ys zs) : Edits (n + 1) xs zs := by
  induction h with
  | refl => exact .tail (.refl _) edit
  | tail _ edit' ih => exact .tail (ih edit) edit'

theorem edits_zero_iff : Edits 0 xs ys ↔ xs = ys := by
  constructor
  · intro h
    cases h
    rfl
  · rintro rfl
    exact .refl _

/-- Edits change the number of elements by their own number at most. -/
theorem Edits.length_le (h : Edits n xs ys) : xs.length ≤ ys.length + n ∧ ys.length ≤ xs.length + n := by
  induction h with
  | refl => simp
  | tail _ edit ih =>
    cases edit <;> simp only [List.length_append, List.length_cons] at ih ⊢ <;> omega

theorem edits_nil_left (ys : List α) : Edits ys.length [] ys := by
  induction ys with
  | nil => exact .refl _
  | cons y ys ih => exact .head (.insert [] [] y) (ih.cons y)

theorem edits_nil_right (xs : List α) : Edits xs.length xs [] := by
  induction xs with
  | nil => exact .refl _
  | cons x xs ih => exact .head (.delete [] xs x) ih

variable [DecidableEq α]

/-! ## The distance is reached -/

/-- As many edits as the distance are enough. -/
theorem edits_editDistance (xs ys : List α) : Edits (editDistance xs ys) xs ys := by
  fun_induction editDistance xs ys with
  | case1 ys => exact edits_nil_left ys
  | case2 xs => exact edits_nil_right xs
  | case3 xs y ys ih => exact ih.cons y
  | case4 x xs y ys hne substitute delete insert =>
    rw [Nat.add_comm]
    rcases min_choice (editDistance xs ys)
        (min (editDistance xs (y :: ys)) (editDistance (x :: xs) ys)) with h | h
    · rw [h]
      exact .head (.substitute [] xs x y) (substitute.cons y)
    · rw [h]
      rcases min_choice (editDistance xs (y :: ys)) (editDistance (x :: xs) ys) with h | h
      · rw [h]
        exact .head (.delete [] xs x) delete
      · rw [h]
        exact .head (.insert [] (x :: xs) y) (insert.cons y)

/-- At most each element of the longer list needs an edit. -/
theorem editDistance_le_max (xs ys : List α) : editDistance xs ys ≤ max xs.length ys.length := by
  fun_induction editDistance xs ys <;> simp only [List.length_cons, List.length_nil] at * <;> omega

/-! ## The distance is not undercut -/

theorem editDistance_comm (xs ys : List α) : editDistance xs ys = editDistance ys xs := by
  fun_induction editDistance xs ys with
  | case1 ys => simp
  | case2 xs => simp
  | case3 xs y ys ih => simp [editDistance, ih]
  | case4 x xs y ys hne substitute delete insert =>
    simp only [editDistance, Ne.symm hne, if_false]
    omega

/-- One element more in front of the one list changes the distance by one at most. Behind a common head
it is the other list that has one element more, so the recursion is on the length of both. -/
theorem editDistance_cons_left (x : α) (xs ys : List α) :
    editDistance (x :: xs) ys ≤ editDistance xs ys + 1 ∧
      editDistance xs ys ≤ editDistance (x :: xs) ys + 1 := by
  match ys with
  | [] =>
    simp only [editDistance_nil_right, List.length_cons]
    omega
  | y :: ys =>
    obtain ⟨hxMore, hxLess⟩ := editDistance_cons_left x xs ys
    obtain ⟨hyMore, hyLess⟩ := editDistance_cons_left y ys xs
    simp only [editDistance_comm (y :: ys), editDistance_comm ys] at hyMore hyLess
    by_cases hxy : x = y
    · subst hxy
      simp only [editDistance, if_true]
      omega
    · simp only [editDistance, hxy, if_false]
      omega
termination_by xs.length + ys.length

theorem editDistance_cons_right (xs : List α) (y : α) (ys : List α) :
    editDistance xs (y :: ys) ≤ editDistance xs ys + 1 ∧
      editDistance xs ys ≤ editDistance xs (y :: ys) + 1 := by
  simpa only [editDistance_comm xs] using editDistance_cons_left y ys xs

theorem editDistance_substitute (xs : List α) (x y : α) (ys : List α) :
    editDistance xs (y :: ys) ≤ editDistance xs (x :: ys) + 1 := by
  cases xs with
  | nil => simp
  | cons z zs =>
    have hxs := editDistance_cons_left z zs ys
    have hys := editDistance_cons_right zs x ys
    simp only [editDistance]
    split <;> split <;> omega

/-- What is in front of an edit does not matter. -/
theorem editDistance_cons_le (h : ∀ xs, editDistance xs zs ≤ editDistance xs ys + 1) (y : α) (xs : List α) :
    editDistance xs (y :: zs) ≤ editDistance xs (y :: ys) + 1 := by
  induction xs with
  | nil => simpa using h []
  | cons x xs ih =>
    have hrest := h xs
    have hall := h (x :: xs)
    simp only [editDistance]
    split <;> omega

theorem editDistance_append_le (h : ∀ xs, editDistance xs zs ≤ editDistance xs ys + 1)
    (before xs : List α) :
    editDistance xs (before ++ zs) ≤ editDistance xs (before ++ ys) + 1 := by
  induction before generalizing xs with
  | nil => exact h xs
  | cons y before ih => exact editDistance_cons_le ih y xs

theorem editDistance_le_of_edit (edit : Edit ys zs) (xs : List α) :
    editDistance xs zs ≤ editDistance xs ys + 1 := by
  cases edit with
  | insert before after y =>
    exact editDistance_append_le (fun xs => (editDistance_cons_right xs y after).1) before xs
  | delete before after x =>
    exact editDistance_append_le (fun xs => (editDistance_cons_right xs x after).2) before xs
  | substitute before after x y =>
    exact editDistance_append_le (fun xs => editDistance_substitute xs x y after) before xs

@[simp] theorem editDistance_self (xs : List α) : editDistance xs xs = 0 := by
  induction xs with
  | nil => simp
  | cons x xs ih => simpa [editDistance] using ih

theorem Edits.editDistance_le (h : Edits n xs ys) : editDistance xs ys ≤ n := by
  induction h with
  | refl => simp
  | tail _ edit ih => exact (editDistance_le_of_edit edit _).trans (Nat.succ_le_succ ih)

/-- The edit distance is the least number of edits. -/
theorem isLeast_editDistance (xs ys : List α) :
    IsLeast {n | Edits n xs ys} (editDistance xs ys) :=
  ⟨edits_editDistance xs ys, fun _ h => Edits.editDistance_le h⟩

end ReceiptRules.Text
