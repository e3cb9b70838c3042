import ReceiptRules.Text.RunLength
import ReceiptRules.Text.Script.Table

/-!
# Scripts

The writing system a character belongs to, as Unicode assigns it: one script for each code point.
-/

namespace ReceiptRules.Text

/-- A writing system, by its four-letter code. -/
structure Script where
  code : String
  deriving Repr, DecidableEq

namespace Script

/-- The scripts of all code points. -/
def table : RunTable Script := RunTable.ofText Script.mk runs

/-- The scripts with their full names, as in `("Grek", "Greek")`. -/
def known : List (Script × String) :=
  let rec pairs : List (List Char) → List (Script × String)
    | code :: name :: rest => (⟨String.ofList code⟩, String.ofList name) :: pairs rest
    | _ => []
  pairs (RunTable.words names.toList)

/-- The script of characters that no script is assigned to. -/
def unknown : Script := ⟨"Zzzz"⟩

end Script

/-- The script of a character. -/
def script (c : Char) : Script :=
  (Script.table.value? c.toNat).getD Script.unknown

end ReceiptRules.Text
