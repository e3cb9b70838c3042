import ReceiptRules.Proofs.Condition.Grammar

/-!
# Reading what was written

The spec of a condition is written without a look at the values in its leaves. Reading the spec gives the
condition back if it is well-formed, and is an error otherwise: no threshold, date value or time that is
out of place is written in a form that stands for another one.
-/

namespace ReceiptRules

namespace Leaf

theorem fitsInteger_of_fitsDateValue {n : ℤ} (h : FitsDateValue n) : FitsInteger n := by
  obtain ⟨hl, hu⟩ := h
  exact ⟨by omega, by omega⟩

/-- An integer of more than 64 bits is written as a double, which is far out of the range of dates. -/
theorem dateValueOf_ofInt {c : DateComponent} {n i : ℤ} :
    dateValueOf c (.ofInt n) = .ok i ↔ (FitsDateValue n ∧ c.InRange n) ∧ n = i := by
  rw [dateValueOf_eq_ok_iff]
  by_cases h : FitsInteger n
  · rw [Json.ofInt, dif_pos h]
    constructor
    · intro hi
      cases hi with | number whole fits range =>
      have hi : n = i := by
        simpa [Number.value] using whole
      subst hi
      exact ⟨⟨fits, range⟩, rfl⟩
    · intro h
      rcases h with ⟨⟨fits, range⟩, rfl⟩
      exact .number rfl fits range
  · rw [Json.ofInt, dif_neg h, Json.ofFloat]
    have hn : ¬ FitsDateValue n := fun hf => h (fitsInteger_of_fitsDateValue hf)
    simp only [hn, false_and, iff_false]
    intro hi
    split at hi
    · next hfinite =>
      cases hi with | number whole fits range =>
      have hlarge : 2 ^ 63 ≤ n.natAbs := by
        rw [FitsInteger] at h
        omega
      have := Double.ofInt_large hlarge hfinite (Number.toInt?_eq_some_iff.mpr whole)
      obtain ⟨hl, hu⟩ := fits
      omega
    · cases hi

theorem thresholdOf_ofFloat {x y : Float} :
    thresholdOf (.ofFloat x) = .ok y ↔ x.isFinite = true ∧ x = y := by
  by_cases h : x.isFinite = true
  · simp [Json.ofFloat, thresholdOf, Number.toFloat, h]
  · simp [Json.ofFloat, thresholdOf, h]

theorem operatorOf_symbol (op : Operator) : operatorOf (.string op.symbol) = .ok op := by
  simp [operatorOf, stringOf]

theorem patternOf_source (p : HeaderPattern) : patternOf (.string p.source) = .ok p := by
  simp [patternOf, stringOf]

/-- What a leaf holds under its key is read back as the leaf if it is well-formed, and as no leaf
otherwise. -/
theorem ofArgument_argument {l m : Leaf} :
    ofArgument l.key l.argument = .ok m ↔ l.WellFormed ∧ l = m := by
  cases l with
  | amount op x =>
    simp [key, argument, ofArgument, check_eq_ok_iff, elements, operatorOf_symbol,
      thresholdOf_ofFloat, WellFormed, and_assoc]
  | date c op n =>
    have hc : componentOf (.string c.name) = .ok c := componentOf_eq_ok_iff.mpr rfl
    simp [key, argument, ofArgument, check_eq_ok_iff, elements, hc, operatorOf_symbol,
      dateValueOf_ofInt, WellFormed, and_assoc]
  | time t r =>
    have hr : relationOf (.string r.name) = .ok r := relationOf_eq_ok_iff.mpr rfl
    by_cases hvalid : t.IsValid <;>
      simp [key, argument, ofArgument, check_eq_ok_iff, elements, hr, stringOf,
        TimeOfDay.ofText?_text, WellFormed, hvalid]
  | header p e =>
    cases e <;>
      simp [key, argument, ofArgument, check_eq_ok_iff, elements, patternOf_source, expectationOf,
        WellFormed]
  | currency | paymentMethod | placeType | placeTypeCategory =>
    simp [key, argument, ofArgument, check_eq_ok_iff, stringOf, WellFormed]

end Leaf

namespace Condition

/-- Members that are each read back as themselves are read back as the list of them. -/
theorem forall₂_toSpec {cs ds : List Condition}
    (ih : ∀ c ∈ cs, ∀ d, Denotes c.toSpec d ↔ c.WellFormed ∧ c = d) :
    List.Forall₂ Denotes (cs.map toSpec) ds ↔ (∀ c ∈ cs, c.WellFormed) ∧ cs = ds := by
  induction cs generalizing ds with
  | nil => simp
  | cons c cs ihcs =>
    have hcs := fun d hd => ih d (List.mem_cons_of_mem c hd)
    simp only [List.map_cons, List.forall₂_cons_left_iff, ih c List.mem_cons_self, ihcs hcs,
      List.forall_mem_cons]
    constructor
    · intro h
      rcases h with ⟨_, _, ⟨hc, rfl⟩, ⟨hall, rfl⟩, rfl⟩
      exact ⟨⟨hc, hall⟩, rfl⟩
    · intro h
      rcases h with ⟨⟨hc, hall⟩, rfl⟩
      exact ⟨c, cs, ⟨hc, rfl⟩, ⟨hall, rfl⟩, rfl⟩

theorem denotes_toSpec_iff {c d : Condition} : Denotes c.toSpec d ↔ c.WellFormed ∧ c = d := by
  induction c using Condition.induction generalizing d with
  | combination op cs ih =>
    have hmembers : ∀ ds, List.Forall₂ Denotes (cs.map toSpec) ds ↔
        (∀ c ∈ cs, c.WellFormed) ∧ cs = ds := fun ds => forall₂_toSpec fun c hc d => ih c hc
    rw [toSpec, toSpecs_eq_map, wellFormed_combination]
    refine (denotes_object_iff (k := .combinator op)).trans ?_
    simp only [DenotesUnder, Json.array.injEq]
    constructor
    · intro h
      rcases h with ⟨_, ds, rfl, members, rfl⟩
      obtain ⟨hall, rfl⟩ := (hmembers ds).mp members
      exact ⟨hall, rfl⟩
    · intro h
      rcases h with ⟨hall, rfl⟩
      exact ⟨_, cs, rfl, (hmembers cs).mpr ⟨hall, rfl⟩, rfl⟩
  | not c ih =>
    rw [toSpec, denotes_object_iff, wellFormed_not]
    simp only [DenotesUnder, ih]
    constructor
    · intro h
      rcases h with ⟨_, ⟨hc, rfl⟩, rfl⟩
      exact ⟨hc, rfl⟩
    · intro h
      rcases h with ⟨hc, rfl⟩
      exact ⟨c, ⟨hc, rfl⟩, rfl⟩
  | leaf l =>
    rw [toSpec, wellFormed_leaf]
    refine (denotes_object_iff (k := .leaf l.key)).trans ?_
    simp only [DenotesUnder, ← Leaf.ofArgument_eq_ok_iff, Leaf.ofArgument_argument]
    constructor
    · intro h
      rcases h with ⟨_, ⟨hl, rfl⟩, rfl⟩
      exact ⟨hl, rfl⟩
    · intro h
      rcases h with ⟨hl, rfl⟩
      exact ⟨l, ⟨hl, rfl⟩, rfl⟩

/-- The spec of a condition is read back as the condition, or else is refused because some leaf is not
well-formed. -/
theorem ofSpec_toSpec (c : Condition) :
    (∀ d, ofSpec c.toSpec = .ok d ↔ c.WellFormed ∧ d = c) ∧
      (¬ c.WellFormed → ∃ e, ofSpec c.toSpec = .error e) := by
  have hread : ∀ d, ofSpec c.toSpec = .ok d ↔ c.WellFormed ∧ d = c := fun d => by
    rw [ofSpec_eq_ok_iff, denotes_toSpec_iff, eq_comm (a := d)]
  refine ⟨hread, fun hc => ?_⟩
  exact eq_error_of_ne_ok fun d hd => hc ((hread d).mp hd).1

end Condition

end ReceiptRules
