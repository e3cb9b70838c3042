import ReceiptRules.Proofs.Condition.Grammar

/-!
# Values of date conditions

Which values may stand in the spec of a condition on the date, and what they stand for. A number is taken
at its exact value or not at all: it has to be whole, of 32 bits and in the range of the component, however
it is given. A string has to be the name of a weekday or of a month (`ofSpec_dateSpec`).
-/

namespace ReceiptRules

/-- The spec of a condition on a component of the date. -/
def dateSpec (c : DateComponent) (operator : String) (value : Json) : Json :=
  .object [(LeafKey.date.name, .array [.string c.name, .string operator, value])]

namespace DateComponent

theorem name_injective : Function.Injective name := fun c c' h => by
  simpa using congrArg ofName? h

variable {c : DateComponent} {i : ℤ}

theorem denotes_number_iff {n : Number} :
    c.Denotes (.number n) i ↔ n.value = i ∧ FitsDateValue i ∧ c.InRange i := by
  constructor
  · rintro ⟨whole, fits, range⟩
    exact ⟨whole, fits, range⟩
  · rintro ⟨whole, fits, range⟩
    exact .number whole fits range

theorem eq_weekday_or_month {name : String} (h : (name, i) ∈ c.valueNames) :
    c = .weekday ∨ c = .month := by
  cases c <;> simp_all [valueNames]

theorem denotes_string_iff {text : String} :
    c.Denotes (.string text) i ↔
      (c = .weekday ∨ c = .month) ∧ (String.ofList (Text.lowercase text.toList), i) ∈ c.valueNames ∧
        c.InRange i := by
  constructor
  · intro h
    cases h with | name known =>
    exact ⟨eq_weekday_or_month known, known, (inRange_of_mem_valueNames known).2⟩
  · rintro ⟨-, known, -⟩
    exact .name known

end DateComponent

namespace Condition

theorem ofSpec_dateSpec_eq_ok_iff {c : DateComponent} {name : String} {value : Json}
    {condition : Condition} :
    ofSpec (dateSpec c name value) = .ok condition ↔
      ∃ op i, name ∈ op.aliases ∧ condition = leaf (.date c op i) ∧ c.Denotes value i := by
  rw [ofSpec_eq_ok_iff, dateSpec]
  constructor
  · intro h
    obtain ⟨l, hl, rfl⟩ := (denotes_object_iff (k := .leaf .date)).mp h
    generalize hargs : Json.array [.string c.name, .string name, value] = argument at hl
    cases hl with | date known hvalue =>
    simp only [Json.array.injEq, List.cons.injEq, Json.string.injEq, and_true] at hargs
    obtain ⟨hname, rfl, rfl⟩ := hargs
    obtain rfl := DateComponent.name_injective hname
    exact ⟨_, _, known, rfl, hvalue⟩
  · rintro ⟨op, i, known, rfl, hvalue⟩
    exact .leaf (.date known hvalue)

/-- The spec of a date condition with a number is accepted exactly if the exact value of the number is a
whole number of 32 bits in the range of the component, and the condition has that value. One with a string
is accepted exactly if the string is, in lower case, the name of a weekday or of a month. -/
theorem ofSpec_dateSpec (c : DateComponent) (name : String) (condition : Condition) :
    (∀ n : Number, ofSpec (dateSpec c name (.number n)) = .ok condition ↔
      ∃ op, ∃ i : ℤ, name ∈ op.aliases ∧ condition = leaf (.date c op i) ∧
        n.value = i ∧ FitsDateValue i ∧ c.InRange i) ∧
    ∀ text : String, ofSpec (dateSpec c name (.string text)) = .ok condition ↔
      ∃ op, ∃ i : ℤ, name ∈ op.aliases ∧ condition = leaf (.date c op i) ∧
        (c = .weekday ∨ c = .month) ∧
          (String.ofList (Text.lowercase text.toList), i) ∈ c.valueNames ∧ c.InRange i := by
  constructor
  · intro n
    rw [ofSpec_dateSpec_eq_ok_iff]
    simp only [DateComponent.denotes_number_iff]
  · intro text
    rw [ofSpec_dateSpec_eq_ok_iff]
    simp only [DateComponent.denotes_string_iff]

end Condition

end ReceiptRules
