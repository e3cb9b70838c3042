import ReceiptRules.Proofs.Calendar.ZonedTimestamp
import ReceiptRules.Proofs.Condition.Fields
import ReceiptRules.Proofs.Reading.Document
import ReceiptRules.Proofs.Reading.Replacement
import ReceiptRules.Proofs.Receipt.Fields

/-!
# Receipts with an offset in the timestamp

A receipt is read alike with an offset behind its timestamp and without one: the offset shifts neither the
date nor the time of day, and no condition can tell the two apart (`Receipt.read_with_offset`).
-/

namespace ReceiptRules

open Document

variable {ν : Type}

/-- A document that is a string. -/
structure Document.IsString [Document ν] (v : ν) (s : String) : Prop where
  notNull : isNull v = false
  view_eq : view v = .ok (.string s)

namespace Receipt

variable [Document ν]

/-- Two documents that give a receipt with `v` and with `v'` as its timestamp and are the same otherwise:
under its key in an object, or in its place in a list. -/
inductive DifferInTimestamp (v v' w w' : ν) : Prop
  | object {before after : List (Except Json5.Error String × ν)}
      (hw : view w = .ok (.object (before ++ (.ok "timestamp", v) :: after)))
      (hw' : view w' = .ok (.object (before ++ (.ok "timestamp", v') :: after)))
  | list {amount : ν} {after : List ν} (hw : view w = .ok (.array (amount :: v :: after)))
      (hw' : view w' = .ok (.array (amount :: v' :: after)))

variable {v v' w w' : ν} {t : Timestamp}

theorem readOptional_of_isString {s : String} (hv : IsString v s) (ht : Timestamp.read s = .ok t) :
    readOptional Timestamp.readDocument v = .ok (some t) := by
  have hs : readString v = .ok s := readString_eq_ok_iff.mpr hv.view_eq
  rw [readOptional, hv.notNull, Timestamp.readDocument, hs, ok_bind, ht]
  rfl

theorem field?_timestamp :
    (record (ν := ν)).field? "timestamp" =
      some (.setter "timestamp" (readOptional Timestamp.readDocument) fun t r =>
        { r with timestamp := t }) := by
  simp [Record.field?, record_fields]

theorem DifferInTimestamp.read_eq (hw : DifferInTimestamp v v' w w')
    (h : readOptional Timestamp.readDocument v = readOptional Timestamp.readDocument v') :
    read w = read w' := by
  cases hw with
  | object hw hw' =>
    exact Record.read_object_congr field?_timestamp (fun s => by simp [Field.setter, h]) hw hw' _
  | @list amount after hw hw' =>
    exact Record.read_array_congr [_] record_fields (fun s => by simp [Field.setter, h]) [amount] rfl
      hw hw' _

/-- The timestamp of a receipt that is read is the one that was written. -/
theorem DifferInTimestamp.timestamp_eq (hw : DifferInTimestamp v v' w w')
    (h : readOptional Timestamp.readDocument v = .ok (some t)) {r : Receipt} (hr : read w = .ok r) :
    r.timestamp = some t := by
  cases hw with
  | @object before after hw hw' =>
    obtain ⟨-, hvalue⟩ := Record.read_object_part record_lawful decided.timestamp hw hr
    have hmem : v ∈ valuesUnder "timestamp" (before ++ (.ok "timestamp", v) :: after) := by simp
    exact (Except.ok.inj (h.symm.trans (hvalue v hmem))).symm
  | list hw hw' =>
    obtain ⟨surplus, hitems, -⟩ := (Record.read_array_eq_ok hw).mp hr
    simp only [record_fields, Record.readItems, bind_eq_ok] at hitems
    obtain ⟨s, -, s', hstamp, hrest⟩ := hitems
    obtain ⟨b, hb, rfl⟩ := Field.read_setter_eq_ok.mp hstamp
    obtain rfl : some t = b := Except.ok.inj (h.symm.trans hb)
    -- None of the fields behind the timestamp changes it.
    have hframe : r.timestamp = Receipt.timestamp _ := Record.readItems_frame (by simp) hrest
    exact hframe

/-- An offset behind the timestamp of a receipt is of no account: the receipt is read as without it, or
refused for the same reason, its timestamp is the one without the offset, and every condition holds of it
alike. -/
theorem read_with_offset (p : Timestamp.Parts) {offset : List Char} (ho : Timestamp.IsOffset offset)
    (ht : Timestamp.read (String.ofList p.text) = .ok t) (hv : IsString v (String.ofList p.text))
    (hv' : IsString v' (String.ofList (p.text ++ offset))) (hw : DifferInTimestamp v v' w w') :
    Timestamp.read (String.ofList (p.text ++ offset)) = .ok t ∧ read w' = read w ∧
      ∀ r r', read w = .ok r → read w' = .ok r' →
        r.timestamp = some t ∧ r'.timestamp = some t ∧ ∀ c : Condition, c.holds r' = c.holds r := by
  have ht' := p.read_text_append_offset ho ht
  have hread := hw.read_eq ((readOptional_of_isString hv ht).trans (readOptional_of_isString hv' ht').symm)
  refine ⟨ht', hread.symm, fun r r' hr hr' => ?_⟩
  obtain rfl : r = r' := Except.ok.inj ((hr.symm.trans hread).trans hr')
  have hstamp := hw.timestamp_eq (readOptional_of_isString hv ht) hr
  exact ⟨hstamp, hstamp, fun _ => rfl⟩

/-- Half a second into the leap second at the end of a year. -/
def newYearParts : Timestamp.Parts where
  year := ['2', '0', '1', '6']
  month := ['1', '2']
  day := ['3', '1']
  hour := ['2', '3']
  minute := ['5', '9']
  second := ['6', '0']
  fraction := ['.', '5']
  year_digits := ⟨rfl, by simp⟩
  month_digits := ⟨rfl, by simp⟩
  day_digits := ⟨rfl, by simp⟩
  hour_digits := ⟨rfl, by simp⟩
  minute_digits := ⟨rfl, by simp⟩
  second_digits := ⟨rfl, by simp⟩
  isFraction := .digits (by decide) (by simp)

/-- With an offset of half a day the receipt is still one of the old year. -/
theorem read_with_offset_newYear :
    Timestamp.IsOffset ['-', '1', '2', ':', '0', '0'] ∧
      (∃ t, Timestamp.read "2016-12-31T23:59:60.5" = .ok t ∧
        Timestamp.read "2016-12-31T23:59:60.5-12:00" = .ok t ∧ t.date.year = 2016) ∧
      read (Json.object [("timestamp", .string "2016-12-31T23:59:60.5-12:00")]) =
        read (Json.object [("timestamp", .string "2016-12-31T23:59:60.5")]) := by
  have ho : Timestamp.IsOffset ['-', '1', '2', ':', '0', '0'] :=
    .shifted (.inr rfl) (by decide : 12 < 24) (by decide : 0 < 60)
  have ht : Timestamp.read (String.ofList newYearParts.text) =
      .ok ⟨⟨2016, 12, 31, by decide⟩, ⟨23, 59, 59, 1_500_000_000, by decide⟩⟩ :=
    newYearParts.read_text_eq_ok_iff.mpr (by decide)
  have hplain : String.ofList newYearParts.text = "2016-12-31T23:59:60.5" := by decide
  have hzoned : String.ofList (newYearParts.text ++ ['-', '1', '2', ':', '0', '0']) =
      "2016-12-31T23:59:60.5-12:00" := by decide
  have hw : DifferInTimestamp (Json.string "2016-12-31T23:59:60.5")
      (Json.string "2016-12-31T23:59:60.5-12:00")
      (Json.object [("timestamp", .string "2016-12-31T23:59:60.5")])
      (Json.object [("timestamp", .string "2016-12-31T23:59:60.5-12:00")]) :=
    @DifferInTimestamp.object Json _ _ _ _ _ [] [] rfl rfl
  obtain ⟨ht', hread, -⟩ := read_with_offset newYearParts ho ht ⟨rfl, hplain ▸ rfl⟩
    ⟨rfl, hzoned ▸ rfl⟩ hw
  rw [hplain] at ht
  rw [hzoned] at ht'
  exact ⟨ho, ⟨_, ht, ht', rfl⟩, hread⟩

end Receipt

end ReceiptRules
