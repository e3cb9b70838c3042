/-!
# Run-length tables

Properties of characters are constant over long runs of code points, so a table is written as a text
of words: a label, and the length of the run that carries it (one if no length follows).
`"a3 b a2"` describes six code points, `a a a b a a`.
-/

namespace ReceiptRules.Text

/-- A table over code points: the runs in order, each as its first code point and its value. -/
structure RunTable (α : Type) where
  runs : Array (Nat × α)

namespace RunTable
variable {α : Type}

/-- Splits a word of a table into its label and the length of its run. -/
def readWord (word : List Char) : String × Nat :=
  let label := word.takeWhile fun c => !c.isDigit
  let digits := word.dropWhile fun c => !c.isDigit
  let length := digits.foldl (fun n c => 10 * n + (c.toNat - '0'.toNat)) 0
  (String.ofList label, if digits.isEmpty then 1 else length)

/-- The words of a text, separated by blanks and line ends; two separators in a row give an empty
word. -/
def words : List Char → List (List Char)
  | [] => []
  | c :: rest =>
    if c == ' ' || c == '\n' then [] :: words rest
    else match words rest with
      | [] => [[c]]
      | word :: others => (c :: word) :: others

/-- Reads a table from its text; `value` says what a label stands for. -/
def ofText (value : String → α) (text : String) : RunTable α :=
  let step := fun (acc : Array (Nat × α) × Nat) word =>
    let (label, length) := readWord word
    (acc.1.push (acc.2, value label), acc.2 + length)
  let filled := (words text.toList).filter fun word => !word.isEmpty
  ⟨(filled.foldl step (#[], 0)).1⟩

/-- The last index in `[lo, hi)` whose run starts at or before `code`, if `lo` is one. -/
def search (runs : Array (Nat × α)) (code lo hi : Nat) : Nat :=
  if lo + 1 < hi then
    let mid := (lo + hi) / 2
    match runs[mid]? with
    | some (start, _) => if start ≤ code then search runs code mid hi else search runs code lo mid
    | none => lo
  else lo
termination_by hi - lo

/-- The value of the run that holds a code point. -/
def value? (table : RunTable α) (code : Nat) : Option α :=
  (table.runs[search table.runs code 0 table.runs.size]?).map Prod.snd

end RunTable

/-- Reads a table of a set of characters: `+` labels the runs inside, `-` those outside. -/
def membershipTable (text : String) : RunTable Bool :=
  RunTable.ofText (· == "+") text

/-- Whether a code point is in a set given by its table. -/
def RunTable.contains (table : RunTable Bool) (code : Nat) : Bool :=
  (table.value? code).getD false

end ReceiptRules.Text
