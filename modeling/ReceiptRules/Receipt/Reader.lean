import ReceiptRules.Reading.Record
import ReceiptRules.Receipt

/-!
# Reading receipts

A field that is null is as good as missing, and so is a line of the header. A timestamp may have an
offset, which is dropped.
-/

namespace ReceiptRules

open Document

variable {ν : Type} [Document ν]

def Amount.record : Record ν Amount where
  name := "struct Amount"
  fields :=
    [⟨"value", false, fun v a => do return { a with value := ← readOptional readFloat v }⟩,
     ⟨"currency", false, fun v a => do return { a with currency := ← readOptional readString v }⟩]

def Amount.read (v : ν) : Except ReadError Amount := Amount.record.read {} v

def Place.record : Record ν Place where
  name := "struct Place"
  fields :=
    [⟨"type", false, fun v p => do return { p with type := ← readOptional readString v }⟩,
     ⟨"typeCategory", false, fun v p => do return { p with category := ← readOptional readString v }⟩]

def Place.read (v : ν) : Except ReadError Place := Place.record.read {} v

def Timestamp.readDocument (v : ν) : Except ReadError Timestamp := do
  let text ← readString v
  (Timestamp.read text).mapError (.badTimestamp text)

namespace Receipt

/-- The lines of a header; null lines are left out. -/
def readHeader (v : ν) : Except ReadError (List String) := do
  let lines ← readOptional (readList (readOptional readString)) v
  return (lines.getD []).filterMap id

def record : Record ν Receipt where
  name := "struct Receipt"
  fields :=
    [⟨"amount", false, fun v r => do return { r with amount := ← readOptional Amount.read v }⟩,
     ⟨"timestamp", false, fun v r => do
        return { r with timestamp := ← readOptional Timestamp.readDocument v }⟩,
     ⟨"paymentMethod", false, fun v r => do
        return { r with paymentMethod := ← readOptional readString v }⟩,
     ⟨"header", false, fun v r => do return { r with header := ← readHeader v }⟩,
     ⟨"place", false, fun v r => do return { r with place := ← readOptional Place.read v }⟩]

/-- Reads a receipt from a document. -/
def read (v : ν) : Except ReadError Receipt := record.read {} v

/-- Reads a receipt from JSON5 text. -/
def ofText (text : String) : Except ReadError Receipt :=
  match Json5.Node.ofText? text with
  | some node => read node
  | none => .error (.unreadable .malformedText)

end Receipt

end ReceiptRules
