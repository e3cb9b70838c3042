import ReceiptRules.Calendar.Timestamp
import ReceiptRules.Json.Basic

/-!
# Receipts

An expense receipt as far as it could be read: every field may be missing. `Receipt.toJson` writes the
fields that are there.
-/

namespace ReceiptRules

/-- The total of a receipt. -/
structure Amount where
  value : Option Float := none
  /-- The code of the currency, such as `EUR`. -/
  currency : Option String := none
  deriving DecidableEq

/-- Where a purchase was made. -/
structure Place where
  type : Option String := none
  category : Option String := none
  deriving DecidableEq

/-- An expense receipt. -/
structure Receipt where
  amount : Option Amount := none
  /-- The date and time printed on the receipt. -/
  timestamp : Option Timestamp := none
  paymentMethod : Option String := none
  /-- The lines of text at the top: name of the shop, address and so on. -/
  header : List String := []
  place : Option Place := none
  deriving DecidableEq

namespace Receipt

/-- The value of the total, if the receipt has one. -/
def amountValue? (r : Receipt) : Option Float := r.amount.bind Amount.value

/-- The currency of the total, if the receipt has one. -/
def currency? (r : Receipt) : Option String := r.amount.bind Amount.currency

/-- The type of the place, if the receipt has one. -/
def placeType? (r : Receipt) : Option String := r.place.bind Place.type

/-- The category of the place, if the receipt has one. -/
def placeTypeCategory? (r : Receipt) : Option String := r.place.bind Place.category

def withAmount (r : Receipt) (value : Float) (currency : String) : Receipt :=
  { r with amount := some ⟨some value, some currency⟩ }

def withTimestamp (r : Receipt) (t : Timestamp) : Receipt := { r with timestamp := some t }

def withPaymentMethod (r : Receipt) (method : String) : Receipt :=
  { r with paymentMethod := some method }

def withHeaderLine (r : Receipt) (line : String) : Receipt := { r with header := r.header ++ [line] }

def withPlace (r : Receipt) (type category : Option String) : Receipt :=
  { r with place := some ⟨type, category⟩ }

end Receipt

/-! ## Written receipts -/

/-- The entry of an optional field; a missing field has none. -/
def optionalEntry {α : Type} (key : String) (write : α → Json) : Option α → List (String × Json)
  | some a => [(key, write a)]
  | none => []

def Amount.toJson (a : Amount) : Json :=
  .object (optionalEntry "value" .ofFloat a.value ++ optionalEntry "currency" .string a.currency)

def Place.toJson (p : Place) : Json :=
  .object (optionalEntry "type" .string p.type ++ optionalEntry "typeCategory" .string p.category)

def Timestamp.toJson (t : Timestamp) : Json := .string t.text

namespace Receipt

/-- The entry of the header lines; an empty list has none. -/
def headerEntry : List String → List (String × Json)
  | [] => []
  | lines => [("header", .array (lines.map .string))]

/-- The fields of a receipt that are there, in the order of their declaration. -/
def toJson (r : Receipt) : Json :=
  .object (optionalEntry "amount" Amount.toJson r.amount ++
    optionalEntry "timestamp" Timestamp.toJson r.timestamp ++
    optionalEntry "paymentMethod" .string r.paymentMethod ++ headerEntry r.header ++
    optionalEntry "place" Place.toJson r.place)

end Receipt

end ReceiptRules
