import ReceiptRules.Proofs.Calendar.WrittenTimestamp
import ReceiptRules.Proofs.Json.Sorted
import ReceiptRules.Proofs.Receipt.Fields

/-!
# Receipts read back

A receipt is read back from its JSON value, whether the entries stand in the order in which they are
written or are sorted by their keys (`Receipt.read_toJson`). The only thing that can be lost is the value
of the total: JSON has no form for infinities and for results that are no numbers, and they are read back
as a missing value. Records that are there without any of their parts stay different from missing ones.
-/

namespace ReceiptRules

open Document Json

variable {α β σ : Type} {key : String} {w : Json → Json}

/-! ## Written entries -/

@[simp] theorem entryValues_headerEntry (lines : List String) :
    entryValues key (Receipt.headerEntry lines) =
      if "header" = key ∧ lines ≠ [] then [.array (lines.map .string)] else [] := by
  cases lines <;> by_cases h : "header" = key <;> simp [Receipt.headerEntry, entryValues, h]

theorem keys_optionalEntry_sublist (k : String) (write : α → Json) (o : Option α) :
    ((optionalEntry k write o).map Prod.fst).Sublist [k] := by
  cases o <;> simp [optionalEntry]

theorem keys_headerEntry_sublist (lines : List String) :
    ((Receipt.headerEntry lines).map Prod.fst).Sublist ["header"] := by
  cases lines <;> simp [Receipt.headerEntry]

theorem accepts_written {name : String} {value : Json → Except ReadError β} {set : β → σ → σ}
    {write : α → Json} {g : α → β} (hg : ∀ a, value (w (write a)) = .ok (g a)) (o : Option α) :
    ∀ v ∈ (o.map write).toList, (Field.setter name value set).Accepts (w v) := by
  intro v hv
  cases o with
  | none => simp at hv
  | some a =>
    obtain rfl : v = write a := by simpa using hv
    exact Field.setter_accepts (hg a)

theorem length_entryValues_le_one {entries : List (String × Json)}
    (h : (entries.map Prod.fst).Nodup) : (entryValues key entries).length ≤ 1 := by
  have hkeys : ((entries.map fun e => ((.ok e.1, e.2) : Except Json5.Error String × Json)).map
      Prod.fst).Nodup := by
    simpa [Function.comp_def] using h.map fun _ _ => Except.ok.inj (ε := Json5.Error)
  rw [← valuesUnder_json]
  exact length_valuesUnder_le_one hkeys

namespace Record
variable {r : Record Json σ} {entries : List (String × Json)} {initial s : σ}

/-- A record without needed fields is read from written entries, also when they are rearranged, if each
field takes its value. -/
theorem exists_read_rearranged (initial : σ) (hr : r.Lawful)
    (hoptional : ∀ f ∈ r.fields, f.required = false) (hw : Rearranges w)
    (hkeys : (entries.map Prod.fst).Nodup)
    (htakes : ∀ f ∈ r.fields, ∀ v ∈ entryValues f.name entries, f.Accepts (w v)) :
    ∃ entries' s, w (.object entries) = .object entries' ∧ r.read initial (.object entries') = .ok s ∧
      ∀ key, entryValues key entries' = (entryValues key entries).map w := by
  obtain ⟨entries', hentries, hvalues⟩ := hw.object entries fun key => length_entryValues_le_one hkeys
  have hread : ∃ s, r.read initial (Json.object entries') = .ok s := by
    refine (read_object_isOk_iff hr rfl).mpr ⟨fun e he => ?_, fun f hf => ?_⟩
    · obtain ⟨⟨k, v⟩, -, rfl⟩ := List.mem_map.mp he
      exact ⟨k, rfl, fun _ => ⟨v, rfl⟩⟩
    · rw [valuesUnder_json, hvalues]
      refine ⟨?_, by simp [hoptional f hf], ?_⟩
      · rw [List.length_map]
        exact length_entryValues_le_one hkeys
      · simpa using htakes f hf
  obtain ⟨s, hs⟩ := hread
  exact ⟨entries', s, hentries, hs, hvalues⟩

/-- The part that the field of an optional value decides. -/
theorem part_eq_bind (hr : r.Lawful) {read : Json → Except ReadError (Option β)}
    {part : σ → Option β} (hpart : r.Decides key part read) (hinitial : part initial = none)
    (hread : r.read initial (.object entries) = .ok s) {o : Option α} {write : α → Json}
    {g : α → Option β} (hvalues : entryValues key entries = (o.map write).toList.map w)
    (hg : ∀ a, read (w (write a)) = .ok (g a)) : part s = o.bind g := by
  obtain ⟨hnone, hsome⟩ := read_object_part hr hpart (v := Json.object entries) rfl hread
  rw [valuesUnder_json, hvalues] at hnone hsome
  cases o with
  | none => rw [hnone rfl, hinitial, Option.bind_none]
  | some a =>
    have h := (hg a).symm.trans (hsome (w (write a)) (by simp))
    exact (Except.ok.inj h).symm

/-- A record of two optional values is read back from their entries. -/
theorem exists_read_pair {α₁ α₂ β₁ β₂ : Type} (initial : σ) (hr : r.Lawful) (hw : Rearranges w)
    {k₁ k₂ : String} {read₁ : Json → Except ReadError (Option β₁)}
    {read₂ : Json → Except ReadError (Option β₂)} {set₁ : Option β₁ → σ → σ} {set₂ : Option β₂ → σ → σ}
    (hfields : r.fields = [.setter k₁ read₁ set₁, .setter k₂ read₂ set₂])
    {part₁ : σ → Option β₁} {part₂ : σ → Option β₂}
    (hparts : r.Decides k₁ part₁ read₁ ∧ r.Decides k₂ part₂ read₂)
    (hinitial : part₁ initial = none ∧ part₂ initial = none)
    {write₁ : α₁ → Json} {write₂ : α₂ → Json} {g₁ : α₁ → Option β₁} {g₂ : α₂ → Option β₂}
    (hg₁ : ∀ a, read₁ (w (write₁ a)) = .ok (g₁ a)) (hg₂ : ∀ a, read₂ (w (write₂ a)) = .ok (g₂ a))
    (o₁ : Option α₁) (o₂ : Option α₂) :
    ∃ entries s,
      w (.object (optionalEntry k₁ write₁ o₁ ++ optionalEntry k₂ write₂ o₂)) = .object entries ∧
        r.read initial (.object entries) = .ok s ∧ part₁ s = o₁.bind g₁ ∧ part₂ s = o₂.bind g₂ := by
  have hne : k₁ ≠ k₂ := by simpa [hfields] using hr.names
  have hkeys : ((optionalEntry k₁ write₁ o₁ ++ optionalEntry k₂ write₂ o₂).map Prod.fst).Nodup := by
    rw [List.map_append]
    exact ((keys_optionalEntry_sublist ..).append (keys_optionalEntry_sublist ..)).nodup (by simpa)
  obtain ⟨entries, s, hentries, hread, hvalues⟩ :=
    exists_read_rearranged initial hr (by simp [hfields]) hw hkeys (by
      simp only [hfields, List.forall_mem_cons, Field.name_setter, entryValues_append,
        entryValues_optionalEntry]
      exact ⟨by simpa [hne.symm] using accepts_written hg₁ o₁,
        by simpa [hne] using accepts_written hg₂ o₂, by simp⟩)
  simp only [entryValues_append, entryValues_optionalEntry] at hvalues
  refine ⟨entries, s, hentries, hread, ?_, ?_⟩
  · exact part_eq_bind hr hparts.1 hinitial.1 hread (by simp [hvalues, hne.symm]) hg₁
  · exact part_eq_bind hr hparts.2 hinitial.2 hread (by simp [hvalues, hne]) hg₂

end Record

/-! ## Amounts and places -/

/-- What JSON can hold of an amount. -/
def Amount.inJson (a : Amount) : Amount := { a with value := a.value.filter Float.isFinite }

theorem readOptional_ofFloat (x : Float) :
    readOptional (ν := Json) readFloat (.ofFloat x) = .ok (if x.isFinite then some x else none) := by
  by_cases h : x.isFinite = true
  · rw [Json.ofFloat, dif_pos h, if_pos h]
    rfl
  · rw [Json.ofFloat, dif_neg h, if_neg h]
    rfl

theorem Json.Rearranges.ofFloat (hw : Rearranges w) (x : Float) : w (.ofFloat x) = .ofFloat x := by
  by_cases h : x.isFinite = true
  · rw [Json.ofFloat, dif_pos h, hw.number]
  · rw [Json.ofFloat, dif_neg h, hw.null]

theorem readOptional_string (hw : Rearranges w) (s : String) :
    readOptional readString (w (.string s)) = .ok (some s) := by
  rw [hw.string]
  rfl

/-- A value that is read as a record is not null. -/
theorem readOptional_object {read : Json → Except ReadError α} {entries : List (String × Json)} {a : α}
    (h : read (.object entries) = .ok a) : readOptional read (.object entries) = .ok (some a) := by
  change (read (.object entries)).map some = .ok (some a)
  rw [h]
  rfl

theorem Amount.readOptional_rearranged (hw : Rearranges w) (a : Amount) :
    readOptional Amount.read (w a.toJson) = .ok (some a.inJson) := by
  obtain ⟨value, currency⟩ := a
  have hvalue : ∀ x, readOptional readFloat (w (.ofFloat x)) =
      .ok (if x.isFinite then some x else none) := by
    intro x
    rw [hw.ofFloat, readOptional_ofFloat]
  obtain ⟨entries, ⟨value', currency'⟩, hentries, hread, rfl, rfl⟩ := Record.exists_read_pair {}
    record_lawful hw record_fields record_decides ⟨rfl, rfl⟩ hvalue (readOptional_string hw) value currency
  have hs : inJson ⟨value, currency⟩ =
      ⟨value.bind fun x => if x.isFinite then some x else none, currency.bind some⟩ := by
    cases value <;> simp [inJson, Option.filter]
  rw [Amount.toJson, hentries, hs]
  exact readOptional_object hread

theorem Place.readOptional_rearranged (hw : Rearranges w) (p : Place) :
    readOptional Place.read (w p.toJson) = .ok (some p) := by
  obtain ⟨type, category⟩ := p
  have hstring := readOptional_string hw
  obtain ⟨entries, ⟨type', category'⟩, hentries, hread, htype, hcategory⟩ := Record.exists_read_pair {}
    record_lawful hw record_fields record_decides ⟨rfl, rfl⟩ hstring hstring type category
  simp only [Option.bind_fun_some] at htype hcategory
  subst htype hcategory
  rw [Place.toJson, hentries]
  exact readOptional_object hread

/-! ## Receipts -/

namespace Receipt

theorem readOptional_timestamp (hw : Rearranges w) (t : Timestamp) :
    readOptional Timestamp.readDocument (w t.toJson) = .ok (some t) := by
  have hread : Timestamp.readDocument (ν := Json) (.string t.text) = .ok t := by
    refine bind_eq_ok.mpr ⟨t.text, rfl, ?_⟩
    rw [Timestamp.read_text]
    rfl
  rw [Timestamp.toJson, hw.string, readOptional, hread]
  rfl

theorem readHeader_rearranged (hw : Rearranges w) (lines : List String) :
    readHeader (w (.array (lines.map .string))) = .ok lines := by
  have hitems : (lines.map Json.string).map w = lines.map .string := by
    simp [hw.string]
  have hread : readList (readOptional readString) (Json.array (lines.map .string)) =
      .ok (lines.map some) := by
    refine readList_eq_ok_iff.mpr ⟨lines.map .string, rfl, ?_⟩
    rw [List.forall₂_map_left_iff, List.forall₂_map_right_iff, List.forall₂_same]
    exact fun _ _ => rfl
  refine bind_eq_ok.mpr ⟨some (lines.map some), ?_, by simp⟩
  rw [hw.array, hitems, readOptional, hread]
  rfl

/-- What JSON can hold of a receipt: all of it, but for a total whose value is no finite number. -/
def inJson (r : Receipt) : Receipt :=
  if r.amountValue?.all Float.isFinite then r
  else { r with amount := r.amount.map fun a => { a with value := none } }

theorem inJson_eq (r : Receipt) : r.inJson = { r with amount := r.amount.map Amount.inJson } := by
  obtain ⟨amount, timestamp, paymentMethod, header, place⟩ := r
  match amount with
  | none => rfl
  | some ⟨none, currency⟩ => rfl
  | some ⟨some x, currency⟩ =>
    by_cases h : x.isFinite = true <;> simp [inJson, amountValue?, Amount.inJson, Option.filter, h]

theorem keys_nodup (r : Receipt) :
    ((optionalEntry "amount" Amount.toJson r.amount ++
      optionalEntry "timestamp" Timestamp.toJson r.timestamp ++
      optionalEntry "paymentMethod" .string r.paymentMethod ++ headerEntry r.header ++
      optionalEntry "place" Place.toJson r.place).map Prod.fst).Nodup := by
  simp only [List.map_append]
  exact (((((keys_optionalEntry_sublist ..).append (keys_optionalEntry_sublist ..)).append
    (keys_optionalEntry_sublist ..)).append (keys_headerEntry_sublist _)).append
    (keys_optionalEntry_sublist ..)).nodup (by decide)

/-- A receipt is read from a rearranged value part by part. -/
theorem read_rearranged (hw : Rearranges w) (r : Receipt) : read (w r.toJson) = .ok r.inJson := by
  have hamount := Amount.readOptional_rearranged hw
  have htimestamp := readOptional_timestamp hw
  have hstring := readOptional_string hw
  have hplace := Place.readOptional_rearranged hw
  obtain ⟨entries, s, hentries, hread, hvalues⟩ := Record.exists_read_rearranged {}
    record_lawful (by simp [record_fields]) hw (keys_nodup r) (by
      simp only [record_fields, List.forall_mem_cons, Field.name_setter, entryValues_append,
        entryValues_optionalEntry, entryValues_headerEntry]
      refine ⟨by simpa using accepts_written hamount r.amount,
        by simpa using accepts_written htimestamp r.timestamp,
        by simpa using accepts_written hstring r.paymentMethod, ?_,
        by simpa using accepts_written hplace r.place, by simp⟩
      suffices r.header ≠ [] → (Field.setter "header" readHeader _).Accepts _ by simpa
      exact fun _ => Field.setter_accepts (readHeader_rearranged hw r.header))
  simp only [entryValues_append, entryValues_optionalEntry, entryValues_headerEntry] at hvalues
  have parts := decided (ν := Json)
  have ha : s.amount = r.amount.bind fun a => some a.inJson :=
    Record.part_eq_bind record_lawful parts.amount rfl hread (by simp [hvalues]) hamount
  have ht : s.timestamp = r.timestamp.bind some :=
    Record.part_eq_bind record_lawful parts.timestamp rfl hread (by simp [hvalues]) htimestamp
  have hm : s.paymentMethod = r.paymentMethod.bind some :=
    Record.part_eq_bind record_lawful parts.paymentMethod rfl hread (by simp [hvalues]) hstring
  have hp : s.place = r.place.bind some :=
    Record.part_eq_bind record_lawful parts.place rfl hread (by simp [hvalues]) hplace
  have hh : s.header = r.header := by
    obtain ⟨hnone, hsome⟩ := Record.read_object_part record_lawful parts.header
      (v := Json.object entries) rfl hread
    rw [valuesUnder_json, hvalues] at hnone hsome
    by_cases hne : r.header = []
    · rw [hnone (by simp [hne]), hne]
    · have hvalue := hsome (w (.array (r.header.map .string))) (by simp [hne])
      exact (Except.ok.inj ((readHeader_rearranged hw r.header).symm.trans hvalue)).symm
  have hs : s = r.inJson := by
    rw [inJson_eq, Option.map_eq_bind]
    simp only [Option.bind_fun_some] at ht hm hp
    obtain ⟨_, _, _, _, _⟩ := s
    simp only at ha ht hm hp hh
    rw [ha, ht, hm, hp, hh]
    rfl
  rw [read, toJson, hentries, hread, hs]

/-- A receipt is read back from its JSON value, in the order in which it is written and sorted, but for
a total whose value is no finite number; nothing else is lost then. -/
theorem read_toJson (r : Receipt) :
    read r.toJson = .ok r.inJson ∧ read r.toJson.sorted = .ok r.inJson :=
  ⟨read_rearranged rearranges_id r, read_rearranged rearranges_sorted r⟩

end Receipt

end ReceiptRules
