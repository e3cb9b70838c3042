/-!
# Edit distance

The least number of insertions, deletions and substitutions of single elements that turn one list into
another. `editDistance` is its defining recursion; `distance` computes it row by row, and
`distance_eq` says that both agree.
-/

namespace ReceiptRules.Text
variable {α : Type} [DecidableEq α]

/-- The edit distance between two lists, by recursion on their heads. -/
def editDistance : List α → List α → Nat
  | [], ys => ys.length
  | xs, [] => xs.length
  | x :: xs, y :: ys =>
    if x = y then editDistance xs ys
    else 1 + min (editDistance xs ys) (min (editDistance xs (y :: ys)) (editDistance (x :: xs) ys))
termination_by xs ys => xs.length + ys.length

/-- The row of a list: its distances to a list and to each suffix of it, the longest first. -/
def suffixDistances (xs : List α) : List α → List Nat
  | [] => [editDistance xs []]
  | y :: ys => editDistance xs (y :: ys) :: suffixDistances xs ys

/-- The row of `x :: xs` from that of `xs`; `size` is the number of elements of `x :: xs`. -/
def nextRow (x : α) (size : Nat) : List α → List Nat → List Nat
  | y :: ys, keep :: drop :: row =>
    let rest := nextRow x size ys (drop :: row)
    (if x = y then drop else 1 + min drop (min keep (rest.headD 0))) :: rest
  | _, _ => [size]

/-- The row of a list, computed from the last element to the first. -/
def distanceRow (ys : List α) : List α → List Nat
  | [] => suffixDistances [] ys
  | x :: xs => nextRow x (xs.length + 1) ys (distanceRow ys xs)

/-- The edit distance, computed row by row. -/
def distance (xs ys : List α) : Nat := (distanceRow ys xs).headD 0

@[simp] theorem editDistance_nil_left (ys : List α) : editDistance [] ys = ys.length := by
  simp [editDistance]

@[simp] theorem editDistance_nil_right (xs : List α) : editDistance xs [] = xs.length := by
  cases xs <;> simp [editDistance]

theorem headD_suffixDistances (xs ys : List α) :
    (suffixDistances xs ys).headD 0 = editDistance xs ys := by
  cases ys <;> rfl

theorem nextRow_suffixDistances (x : α) (xs ys : List α) :
    nextRow x (xs.length + 1) ys (suffixDistances xs ys) = suffixDistances (x :: xs) ys := by
  induction ys with
  | nil => simp [nextRow, suffixDistances]
  | cons y ys ih =>
    obtain ⟨row, hrow⟩ : ∃ row, suffixDistances xs ys = editDistance xs ys :: row := by
      cases ys <;> exact ⟨_, rfl⟩
    rw [suffixDistances, hrow, nextRow, ← hrow, ih, headD_suffixDistances, suffixDistances,
      editDistance]

theorem distanceRow_eq (xs ys : List α) : distanceRow ys xs = suffixDistances xs ys := by
  induction xs with
  | nil => rfl
  | cons x xs ih => rw [distanceRow, ih, nextRow_suffixDistances]

/-- The row-by-row computation gives the edit distance. -/
theorem distance_eq (xs ys : List α) : distance xs ys = editDistance xs ys := by
  rw [distance, distanceRow_eq, headD_suffixDistances]

end ReceiptRules.Text
