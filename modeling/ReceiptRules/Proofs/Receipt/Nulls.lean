import ReceiptRules.Proofs.Reading.Nulls
import ReceiptRules.Proofs.Receipt.Fields

/-!
# Nulls in receipts

A receipt is read alike from a JSON value and from the value without its nulls, or is refused for the same
reason (`Receipt.read_withoutNulls`): an entry that is null is as good as a missing one in the receipt, its
amount and its place, and so is a null among the lines of the header.
-/

namespace ReceiptRules

open Document

variable {ν σ α β : Type}

/-! ## Records whose fields may be null -/

theorem readOptional_null (read : Json → Except ReadError β) : readOptional read .null = .ok none := rfl

/-- Fields that set different parts can be read in either order. -/
theorem Field.setter_commutes {name name' : String} {value : ν → Except ReadError α}
    {value' : ν → Except ReadError β} {set : α → σ → σ} {set' : β → σ → σ}
    (h : ∀ a b s, set' b (set a s) = set a (set' b s)) :
    (Field.setter name value set).Commutes (.setter name' value' set') := by
  intro v w s s' s'' hv hw
  obtain ⟨a, ha, rfl⟩ := read_setter_eq_ok.mp hv
  obtain ⟨b, hb, rfl⟩ := read_setter_eq_ok.mp hw
  exact ⟨set' b (set a s), read_setter_eq_ok.mpr ⟨b, hb, rfl⟩,
    read_setter_eq_ok.mpr ⟨a, ha, (h a b s).symm⟩⟩

theorem Amount.nullIsMissing : (record (ν := Json)).NullIsMissing {} where
  optional := by simp [record_fields]
  initial := by simp [record_fields, readOptional_null]
  commute := by simp [record_fields, Field.setter_commutes]

theorem Place.nullIsMissing : (record (ν := Json)).NullIsMissing {} where
  optional := by simp [record_fields]
  initial := by simp [record_fields, readOptional_null]
  commute := by simp [record_fields, Field.setter_commutes]

namespace Receipt

/-- The value under a key of a receipt, without the nulls that may be left out of it. -/
def fieldWithoutNulls (key : String) (j : Json) : Json :=
  if key = "amount" then j.dropNulls ["value", "currency"]
  else if key = "place" then j.dropNulls ["type", "typeCategory"]
  else if key = "header" then j.dropNullItems
  else j

/-- The JSON value of a receipt, without the nulls that may be left out of it. -/
def withoutNulls (j : Json) : Json :=
  (j.mapEntries fieldWithoutNulls).dropNulls
    ["amount", "timestamp", "paymentMethod", "header", "place"]

theorem readHeader_null : readHeader Json.null = .ok [] := rfl

theorem readHeader_dropNullItems (j : Json) : readHeader j.dropNullItems = readHeader j := by
  have harray : ∀ items : List Json, readHeader (Json.array items) =
      (items.mapM (readOptional readString)).map (List.filterMap id) := by
    intro items
    have hlist : readOptional (readList (readOptional readString)) (Json.array items) =
        (items.mapM (readOptional readString)).map some := rfl
    rw [readHeader, hlist]
    cases items.mapM (readOptional readString) <;> rfl
  cases j with
  | array items => rw [Json.dropNullItems, harray, harray, mapM_readOptional_filter]
  | _ => rfl

theorem nullIsMissing : (record (ν := Json)).NullIsMissing {} where
  optional := by simp [record_fields]
  initial := by simp [record_fields, readOptional_null, readHeader_null]
  commute := by simp [record_fields, Field.setter_commutes]

theorem readOptional_dropNulls {r : Record Json σ} {initial : σ} (h : r.NullIsMissing initial)
    (keys : List String) {j : Json} (hj : j.Canonical) :
    readOptional (r.read initial) (j.dropNulls keys) = readOptional (r.read initial) j := by
  have hread := h.read_dropNulls keys (Json.keys_nodup_of_canonical hj)
  cases j with
  | object entries => exact congrArg (Except.map some) hread
  | _ => rfl

theorem readEntry_fieldWithoutNulls {e : String × Json} (he : e.2.Canonical) (r : Receipt) :
    record.readEntry r (e.1, fieldWithoutNulls e.1 e.2) = record.readEntry r e := by
  obtain ⟨key, v⟩ := e
  have hamount : readOptional Amount.read (v.dropNulls ["value", "currency"]) =
      readOptional Amount.read v := readOptional_dropNulls Amount.nullIsMissing _ he
  have hplace : readOptional Place.read (v.dropNulls ["type", "typeCategory"]) =
      readOptional Place.read v := readOptional_dropNulls Place.nullIsMissing _ he
  rw [fieldWithoutNulls]
  split_ifs with hkey hkey hkey
  · subst hkey
    simp [Record.readEntry, Record.field?, record_fields, Field.setter, hamount]
  · subst hkey
    simp [Record.readEntry, Record.field?, record_fields, Field.setter, hplace]
  · subst hkey
    simp [Record.readEntry, Record.field?, record_fields, Field.setter, readHeader_dropNullItems]
  · rfl

/-- Nulls of a receipt are as good as missing: without them it is read as the same receipt, or refused for
the same reason. -/
theorem read_withoutNulls {j : Json} (hj : j.Canonical) : read (withoutNulls j) = read j := by
  cases j with
  | object entries =>
    have hkeys := Json.keys_nodup_of_canonical hj entries rfl
    have hvalues : ∀ e ∈ entries, e.2.Canonical := by
      rw [Json.Canonical, Json.canonicalEntries_iff] at hj
      exact hj.2
    have hmapped : ∀ es, (Json.object entries).mapEntries fieldWithoutNulls = .object es →
        (es.map Prod.fst).Nodup := by
      rintro es ⟨⟩
      simpa [Function.comp_def] using hkeys
    calc read (withoutNulls (Json.object entries))
        = read ((Json.object entries).mapEntries fieldWithoutNulls) :=
          nullIsMissing.read_dropNulls _ hmapped
      _ = read (Json.object entries) :=
          Record.read_mapEntries nullIsMissing.optional hkeys fun e he s =>
            readEntry_fieldWithoutNulls (hvalues e he) s
  | _ => rfl

/-- A receipt with nulls in all places where they may be left out, and a list in the header that is no
line. -/
def nullReceipt : Json :=
  .object [("amount", .object [("currency", .null), ("value", .number (.integer 7 (by decide)))]),
    ("header", .array [.null, .string "Bakery", .array [], .null]), ("paymentMethod", .null),
    ("place", .object [("type", .null), ("typeCategory", .null)]), ("timestamp", .null)]

theorem read_withoutNulls_nullReceipt :
    nullReceipt.Canonical ∧
      withoutNulls nullReceipt =
        .object [("amount", .object [("value", .number (.integer 7 (by decide)))]),
          ("header", .array [.string "Bakery", .array []]), ("place", .object [])] ∧
      read (withoutNulls nullReceipt) = read nullReceipt ∧
      read nullReceipt = .error (.wrongType .array "a string") := by
  have hcanonical : nullReceipt.Canonical := by
    simp only [nullReceipt, Json.Canonical, Json.CanonicalItems, Json.CanonicalEntries, Json.KeysAscend,
      List.map_cons, List.map_nil, and_true, true_and]
    decide
  exact ⟨hcanonical, rfl, read_withoutNulls hcanonical, rfl⟩

end Receipt

end ReceiptRules
