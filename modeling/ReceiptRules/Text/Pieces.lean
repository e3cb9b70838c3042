/-!
# Pieces of text

Cutting a text at every mark of one kind.
-/

namespace ReceiptRules.Text

/-- The pieces of a text between marks; there is one more than there are marks. -/
def pieces (mark : Char) : List Char → List (List Char)
  | [] => [[]]
  | c :: cs =>
    if c = mark then [] :: pieces mark cs
    else
      match pieces mark cs with
      | [] => [[c]]
      | piece :: rest => (c :: piece) :: rest

theorem pieces_ne_nil (mark : Char) (cs : List Char) : pieces mark cs ≠ [] := by
  cases cs with
  | nil => simp [pieces]
  | cons c cs =>
    unfold pieces
    split
    · simp
    · split <;> simp

/-- Nothing but the marks is lost: the pieces with marks between them are the text. -/
@[simp] theorem intercalate_pieces (mark : Char) (cs : List Char) :
    [mark].intercalate (pieces mark cs) = cs := by
  induction cs with
  | nil => rfl
  | cons c cs ih =>
    unfold pieces
    split
    · next h =>
      subst h
      match hp : pieces c cs with
      | [] => exact absurd hp (pieces_ne_nil c cs)
      | piece :: rest => simp_all [List.intercalate, List.intersperse]
    · match hp : pieces mark cs with
      | [] => exact absurd hp (pieces_ne_nil mark cs)
      | [piece] => simp_all [List.intercalate, List.intersperse]
      | piece :: next :: rest => simp_all [List.intercalate, List.intersperse]

end ReceiptRules.Text
