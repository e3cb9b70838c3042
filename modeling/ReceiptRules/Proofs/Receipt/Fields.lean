import ReceiptRules.Proofs.Reading.Document
import ReceiptRules.Receipt.Reader

/-!
# Fields of receipts

Each entry of an amount, a place or a receipt puts a value of its own into one part of the record, and
leaves the other parts as they are (`Field.setter`). So each part is decided by the values under one key,
in whatever order the entries stand: `Amount.record_decides`, `Place.record_decides` and
`Receipt.record_decides`.
-/

namespace ReceiptRules

open Document Json

variable {ν σ α β : Type}

/-! ## Written entries -/

theorem entryValues_append {key : String} (entries entries' : List (String × Json)) :
    entryValues key (entries ++ entries') = entryValues key entries ++ entryValues key entries' :=
  List.filterMap_append ..

@[simp] theorem entryValues_optionalEntry {key : String} (k : String) (write : α → Json) (o : Option α) :
    entryValues key (optionalEntry k write o) = if k = key then (o.map write).toList else [] := by
  cases o <;> by_cases h : k = key <;> simp [optionalEntry, entryValues, h]

/-! ## Fields that set a part -/

/-- A field that reads a value and puts it into the record; it may be missing. -/
def Field.setter (name : String) (value : ν → Except ReadError β) (set : β → σ → σ) : Field ν σ :=
  ⟨name, false, fun v s => value v >>= fun b => pure (set b s)⟩

section
variable {name : String} {value : ν → Except ReadError β} {set : β → σ → σ}

@[simp] theorem Field.name_setter : (Field.setter name value set).name = name := rfl

@[simp] theorem Field.required_setter : (Field.setter name value set).required = false := rfl

@[simp] theorem Field.read_setter_eq_ok {v : ν} {s s' : σ} :
    (Field.setter name value set).read v s = .ok s' ↔ ∃ b, value v = .ok b ∧ set b s = s' := by
  simp [Field.setter]

theorem Field.setter_accepts {v : ν} {b : β} (h : value v = .ok b) :
    (Field.setter name value set).Accepts v := by
  intro s
  exact ⟨set b s, read_setter_eq_ok.mpr ⟨b, h, rfl⟩⟩

end

/-- Fields with names of their own that each set a part make a lawful record. -/
theorem Record.lawful_of_setters {r : Record ν σ} (hnames : (r.fields.map Field.name).Nodup)
    (hsetters : ∀ f ∈ r.fields, ∃ (name : String) (β : Type) (value : ν → Except ReadError β)
      (set : β → σ → σ), f = .setter name value set) : r.Lawful where
  names := hnames
  uniform := by
    intro f hf v s s' h
    obtain ⟨name, β, value, set, rfl⟩ := hsetters f hf
    obtain ⟨b, hb, -⟩ := Field.read_setter_eq_ok.mp h
    exact Field.setter_accepts hb

variable [Document ν]

namespace Amount

theorem record_fields :
    (record (ν := ν)).fields =
      [.setter "value" (readOptional readFloat) fun x a => { a with value := x },
       .setter "currency" (readOptional readString) fun s a => { a with currency := s }] := rfl

theorem record_lawful : (record (ν := ν)).Lawful := by
  refine Record.lawful_of_setters (by simp [record_fields]) ?_
  simp only [record_fields, List.forall_mem_cons]
  exact ⟨⟨_, _, _, _, rfl⟩, ⟨_, _, _, _, rfl⟩, by simp⟩

theorem record_decides :
    (record (ν := ν)).Decides "value" Amount.value (readOptional readFloat) ∧
      (record (ν := ν)).Decides "currency" Amount.currency (readOptional readString) := by
  refine ⟨⟨?_, ?_, ?_⟩, ?_, ?_, ?_⟩
  all_goals simp [record_fields]

end Amount

namespace Place

theorem record_fields :
    (record (ν := ν)).fields =
      [.setter "type" (readOptional readString) fun s p => { p with type := s },
       .setter "typeCategory" (readOptional readString) fun s p => { p with category := s }] := rfl

theorem record_lawful : (record (ν := ν)).Lawful := by
  refine Record.lawful_of_setters (by simp [record_fields]) ?_
  simp only [record_fields, List.forall_mem_cons]
  exact ⟨⟨_, _, _, _, rfl⟩, ⟨_, _, _, _, rfl⟩, by simp⟩

theorem record_decides :
    (record (ν := ν)).Decides "type" Place.type (readOptional readString) ∧
      (record (ν := ν)).Decides "typeCategory" Place.category (readOptional readString) := by
  refine ⟨⟨?_, ?_, ?_⟩, ?_, ?_, ?_⟩
  all_goals simp [record_fields]

end Place

namespace Receipt

theorem record_fields :
    (record (ν := ν)).fields =
      [.setter "amount" (readOptional Amount.read) fun a r => { r with amount := a },
       .setter "timestamp" (readOptional Timestamp.readDocument) fun t r => { r with timestamp := t },
       .setter "paymentMethod" (readOptional readString) fun s r => { r with paymentMethod := s },
       .setter "header" readHeader fun lines r => { r with header := lines },
       .setter "place" (readOptional Place.read) fun p r => { r with place := p }] := rfl

theorem record_lawful : (record (ν := ν)).Lawful := by
  refine Record.lawful_of_setters (by simp [record_fields]) ?_
  simp only [record_fields, List.forall_mem_cons]
  exact ⟨⟨_, _, _, _, rfl⟩, ⟨_, _, _, _, rfl⟩, ⟨_, _, _, _, rfl⟩, ⟨_, _, _, _, rfl⟩, ⟨_, _, _, _, rfl⟩,
    by simp⟩

/-- The parts of a receipt, each with the key under which its value stands. -/
structure Decided (ν : Type) [Document ν] : Prop where
  amount : (record (ν := ν)).Decides "amount" Receipt.amount (readOptional Amount.read)
  timestamp :
    (record (ν := ν)).Decides "timestamp" Receipt.timestamp (readOptional Timestamp.readDocument)
  paymentMethod :
    (record (ν := ν)).Decides "paymentMethod" Receipt.paymentMethod (readOptional readString)
  header : (record (ν := ν)).Decides "header" Receipt.header readHeader
  place : (record (ν := ν)).Decides "place" Receipt.place (readOptional Place.read)

theorem decided : Decided ν := by
  refine ⟨⟨?_, ?_, ?_⟩, ⟨?_, ?_, ?_⟩, ⟨?_, ?_, ?_⟩, ⟨?_, ?_, ?_⟩, ?_, ?_, ?_⟩
  all_goals simp [record_fields]

end Receipt

end ReceiptRules
