import ReceiptRules.Condition.Reader
import ReceiptRules.Proofs.Condition.FirstFault
import ReceiptRules.Proofs.Json5.WrittenValue

/-!
# Specs as values and as texts

A spec can be read from a JSON value and from JSON5 text. The text of a value is read as the value itself,
with the same condition or the same error, if its strings and keys can stand in JSON5 and its integers
have a sign; any other text of a JSON value is refused although the value may be a spec
(`ofText_compact_eq_ofSpec_iff`).
-/

namespace ReceiptRules

open Json5

theorem Json5.Numeral.exists_cons {text : List Char} (h : Numeral text) :
    ∃ c cs, text = c :: cs ∧ Text.isBlank c = false := by
  cases h with
  | unsigned magnitude =>
    obtain ⟨c, cs, rfl, hc⟩ := magnitude.exists_cons
    exact ⟨c, cs, rfl, isBlank_of_isDigit hc⟩
  | negative magnitude => exact ⟨'-', _, rfl, by decide⟩

/-- No written value starts with a blank. -/
theorem Json.exists_write_cons (j : Json) (depth : Option ℕ) :
    ∃ c cs, j.write depth = c :: cs ∧ Text.isBlank c = false := by
  cases j with
  | null => exact ⟨_, _, by rw [write], by decide⟩
  | bool b => cases b <;> exact ⟨_, _, by rw [write], by decide⟩
  | number n =>
    rw [write]
    exact n.numeral_text.exists_cons
  | string s => exact ⟨'"', _, by rw [write, quotedString]; rfl, by decide⟩
  | array items => cases items <;> exact ⟨'[', _, by simp only [write]; rfl, by decide⟩
  | object entries =>
    rcases entries with _ | ⟨⟨key, value⟩, entries⟩ <;>
      exact ⟨'\x7b', _, by simp only [write]; rfl, by decide⟩

namespace Condition

/-- The values whose text is read as they are: no line separator stands in a string or key, and no
integer takes all 64 bits. -/
def Portable (j : Json) : Prop := (∀ s ∈ j.texts, Json.Plain s) ∧ ∀ n ∈ j.numbers, n.IsSigned

theorem ofText_compact {v : Json} (hcanonical : v.Canonical) (hnumbers : ∀ n ∈ v.numbers, n.ReadsBack) :
    ofText v.compact =
      if ∀ s ∈ v.texts, Json.Plain s then
        if ∀ n ∈ v.numbers, n.IsSigned then ofSpec v
        else .error ⟨.unreadable .malformedInteger, []⟩
      else .error ⟨.unreadable .malformedText, []⟩ := by
  obtain ⟨c, cs, hwrite, hc⟩ := v.exists_write_cons none
  have hblank : v.compact.toList.all Text.isBlank = false := by
    simp [Json.compact, hwrite, hc]
  rw [ofText, if_neg (by simp [hblank]), Json.compact, Json.valueOfText_write hcanonical hnumbers]
  split_ifs <;> rfl

/-- A spec gives the same condition or the same error as a value and as the text of the value exactly if
the value is portable. The text of any other value is refused as a text. -/
theorem ofText_compact_eq_ofSpec_iff {v : Json} (hcanonical : v.Canonical)
    (hnumbers : ∀ n ∈ v.numbers, n.ReadsBack) :
    (ofText v.compact = ofSpec v ↔ Portable v) ∧
      (¬ Portable v → ∃ x, ofText v.compact = .error ⟨.unreadable x, []⟩) := by
  have hrefused : ∀ x, ¬ .error ⟨.unreadable x, []⟩ = ofSpec v := fun x h =>
    (fails_of_ofSpec h.symm).ne_unreadable rfl x rfl
  rw [ofText_compact hcanonical hnumbers, Portable]
  split_ifs with htexts hsigned
  · exact ⟨iff_of_true rfl ⟨htexts, hsigned⟩, fun h => absurd ⟨htexts, hsigned⟩ h⟩
  · exact ⟨iff_of_false (hrefused _) fun h => hsigned h.2, fun _ => ⟨_, rfl⟩⟩
  · exact ⟨iff_of_false (hrefused _) fun h => htexts h.1, fun _ => ⟨_, rfl⟩⟩

/-- A value with a double, and with a string that is written with escapes. -/
def escapedSpec : Json :=
  .object [("$and", .array [.object [("amount", .array [.string ">", .number (.float 2.5 rfl)])],
    .object [("currency", .string "\"EUR\"\n")]])]

theorem ofText_compact_escapedSpec :
    (ofText escapedSpec.compact = ofSpec escapedSpec ↔ Portable escapedSpec) ∧
      (¬ Portable escapedSpec → ∃ x, ofText escapedSpec.compact = .error ⟨.unreadable x, []⟩) :=
  ofText_compact_eq_ofSpec_iff
    (by simp [escapedSpec, Json.Canonical, Json.CanonicalItems, Json.CanonicalEntries, Json.KeysAscend])
    (by
      have hvalue : floatValue (Decimal.jsonText 2.5).toList = .ok 2.5 := by decide +kernel
      simpa [escapedSpec, Json.numbers, Json.itemNumbers, Json.entryNumbers, Number.ReadsBack])

/-- A threshold that takes all 64 bits. -/
def greatestThreshold : Number := .integer 18446744073709551615 (by decide)

def thresholdSpec : Json := .object [("amount", .array [.string ">", .number greatestThreshold])]

/-- A value that is the spec of a condition, and whose text is none. -/
theorem thresholdSpec_refused :
    ofSpec thresholdSpec = .ok (.leaf (.amount .greater greatestThreshold.toFloat)) ∧
      ofText thresholdSpec.compact = .error ⟨.unreadable .malformedInteger, []⟩ := by
  refine ⟨rfl, ?_⟩
  rw [ofText_compact]
  · rfl
  · simp [thresholdSpec, Json.Canonical, Json.CanonicalItems, Json.CanonicalEntries, Json.KeysAscend]
  · simp [thresholdSpec, Json.numbers, Json.itemNumbers, Json.entryNumbers, Number.ReadsBack,
      greatestThreshold]

end Condition

end ReceiptRules
