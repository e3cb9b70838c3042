import ReceiptRules.Condition.Reader
import ReceiptRules.Proofs.Condition.ClockText
import ReceiptRules.Proofs.Double.ExactValue
import ReceiptRules.Proofs.Double.WholeNumber
import ReceiptRules.Proofs.Except

/-!
# The grammar of leaves

What may stand under the key of a leaf, and for which leaf it stands: `Leaf.Denotes`, a relation that
names every word the reader knows and does not mention the reader. `ofArgument_eq_ok_iff` says that the
reader accepts exactly this.
-/

namespace ReceiptRules

/-- Integers of 32 bits with a sign. -/
def FitsDateValue (n : ℤ) : Prop := -0x8000_0000 ≤ n ∧ n < 0x8000_0000

/-- The symbol and the words for an operator. -/
def Operator.aliases : Operator → List String
  | equal => ["==", "eq", "equals"]
  | notEqual => ["!=", "ne", "not_equals"]
  | greater => [">", "gt", "greater_than"]
  | greaterOrEqual => [">=", "gte", "greater_than_or_equal"]
  | less => ["<", "lt", "less_than"]
  | lessOrEqual => ["<=", "lte", "less_than_or_equal"]

/-- The names of the values of a component, in lower case. -/
def DateComponent.valueNames : DateComponent → List (String × ℤ)
  | weekday =>
    [("mon", 1), ("monday", 1), ("tue", 2), ("tuesday", 2), ("wed", 3), ("wednesday", 3), ("thu", 4),
     ("thursday", 4), ("fri", 5), ("friday", 5), ("sat", 6), ("saturday", 6), ("sun", 7), ("sunday", 7)]
  | month =>
    [("jan", 1), ("january", 1), ("feb", 2), ("february", 2), ("mar", 3), ("march", 3), ("apr", 4),
     ("april", 4), ("may", 5), ("jun", 6), ("june", 6), ("jul", 7), ("july", 7), ("aug", 8),
     ("august", 8), ("sep", 9), ("sept", 9), ("september", 9), ("oct", 10), ("october", 10),
     ("nov", 11), ("november", 11), ("dec", 12), ("december", 12)]
  | _ => []

/-- The JSON values that stand for a value of a component: whole numbers in its range, and names. -/
inductive DateComponent.Denotes (c : DateComponent) : Json → ℤ → Prop
  | number {n : Number} {i : ℤ} (whole : n.value = i) (fits : FitsDateValue i) (range : c.InRange i) :
      Denotes c (.number n) i
  | name {text : String} {i : ℤ}
      (known : (String.ofList (Text.lowercase text.toList), i) ∈ c.valueNames) :
      Denotes c (.string text) i

/-- The JSON values that may stand under the key of a leaf. -/
inductive Leaf.Denotes : LeafKey → Json → Leaf → Prop
  | amount {op : Operator} {name : String} {n : Number} (known : name ∈ op.aliases) :
      Denotes .amount (.array [.string name, .number n]) (.amount op n.toFloat)
  | currency {code : String} : Denotes .currency (.string code) (.currency code)
  | date {c : DateComponent} {op : Operator} {name : String} {value : Json} {i : ℤ}
      (known : name ∈ op.aliases) (hvalue : c.Denotes value i) :
      Denotes .date (.array [.string c.name, .string name, value]) (.date c op i)
  | time {relation : Relation} {text : String} {t : TimeOfDay}
      (written : TimeOfDay.Written (Text.trim text.toList) t) :
      Denotes .time (.array [.string relation.name, .string text]) (.time t relation)
  | presence {key : String} {pattern : HeaderPattern} {flag : Bool}
      (accepted : HeaderPattern.ofKey key = .ok pattern) :
      Denotes .header (.array [.string key, .bool flag]) (.header pattern (.present flag))
  | value {key : String} {pattern : HeaderPattern} {text : String}
      (accepted : HeaderPattern.ofKey key = .ok pattern) :
      Denotes .header (.array [.string key, .string text]) (.header pattern (.value text))
  | paymentMethod {method : String} :
      Denotes .paymentMethod (.string method) (.paymentMethod method)
  | placeType {type : String} : Denotes .placeType (.string type) (.placeType type)
  | placeTypeCategory {category : String} :
      Denotes .placeTypeCategory (.string category) (.placeTypeCategory category)

/-! ## Words -/

theorem Operator.ofName?_eq_some_iff {name : String} {op : Operator} :
    ofName? name = some op ↔ name ∈ op.aliases := by
  constructor
  · intro h
    unfold ofName? at h
    split at h <;> cases h <;> simp [aliases]
  · intro h
    cases op <;> simp only [aliases, List.mem_cons, List.not_mem_nil, or_false] at h <;>
      rcases h with rfl | rfl | rfl <;> rfl

theorem DateComponent.ofName?_eq_some_iff {name : String} {c : DateComponent} :
    ofName? name = some c ↔ name = c.name := by
  constructor
  · intro h
    unfold ofName? at h
    split at h <;> cases h <;> rfl
  · rintro rfl
    exact ofName?_name c

theorem Relation.ofName?_eq_some_iff {name : String} {r : Relation} :
    ofName? name = some r ↔ name = r.name := by
  constructor
  · intro h
    unfold ofName? at h
    split at h <;> cases h <;> rfl
  · rintro rfl
    exact ofName?_name r

theorem DateComponent.weekdayOfName?_eq_some_iff {name : String} {i : ℤ} :
    weekdayOfName? name = some i ↔ (name, i) ∈ valueNames .weekday := by
  constructor
  · intro h
    unfold weekdayOfName? at h
    split at h <;> cases h <;> simp [valueNames]
  · have hall : ∀ p ∈ valueNames .weekday, weekdayOfName? p.1 = some p.2 := by decide
    exact hall (name, i)

theorem DateComponent.monthOfName?_eq_some_iff {name : String} {i : ℤ} :
    monthOfName? name = some i ↔ (name, i) ∈ valueNames .month := by
  constructor
  · intro h
    unfold monthOfName? at h
    split at h <;> cases h <;> simp [valueNames]
  · have hall : ∀ p ∈ valueNames .month, monthOfName? p.1 = some p.2 := by decide
    exact hall (name, i)

theorem DateComponent.valueOfName?_eq_some_iff {c : DateComponent} {text : String} {i : ℤ} :
    c.valueOfName? text = some i ↔
      (String.ofList (Text.lowercase text.toList), i) ∈ c.valueNames := by
  cases c with
  | weekday => exact weekdayOfName?_eq_some_iff
  | month => exact monthOfName?_eq_some_iff
  | _ => simp [valueOfName?, valueNames]

/-- The names of the values of a component stand for values in its range. -/
theorem DateComponent.inRange_of_mem_valueNames {c : DateComponent} {name : String} {i : ℤ}
    (h : (name, i) ∈ c.valueNames) : FitsDateValue i ∧ c.InRange i := by
  have hall : ∀ p ∈ c.valueNames, (-0x8000_0000 ≤ p.2 ∧ p.2 < 0x8000_0000) ∧ c.InRange p.2 := by
    cases c <;> decide
  exact hall _ h

/-! ## Parts of arguments -/

namespace Leaf

variable {j : Json}

theorem elements_eq_ok_iff {shape : List String} {items : List Json} :
    elements shape j = .ok items ↔ j = .array items ∧ items.length = shape.length := by
  cases j with
  | array found =>
    by_cases h : found.length = shape.length
    · simp only [elements, if_pos h, Except.ok.injEq, Json.array.injEq]
      exact ⟨fun e => ⟨e, e ▸ h⟩, And.left⟩
    · simp only [elements, if_neg h, reduceCtorEq, Json.array.injEq, false_iff, not_and]
      intro e
      rwa [← e]
  | _ => simp [elements]

theorem stringOf_eq_ok_iff {what s : String} : stringOf what j = .ok s ↔ j = .string s := by
  cases j <;> simp [stringOf]

theorem operatorOf_eq_ok_iff {op : Operator} :
    operatorOf j = .ok op ↔ ∃ name ∈ op.aliases, j = .string name := by
  simp only [operatorOf, bind_eq_ok, stringOf_eq_ok_iff, ← Operator.ofName?_eq_some_iff]
  refine exists_congr fun name => ?_
  split <;> simp_all [and_comm]

theorem thresholdOf_eq_ok_iff {x : Float} :
    thresholdOf j = .ok x ↔ ∃ n : Number, j = .number n ∧ n.toFloat = x := by
  cases j <;> simp [thresholdOf]

theorem componentOf_eq_ok_iff {c : DateComponent} :
    componentOf j = .ok c ↔ j = .string c.name := by
  simp only [componentOf, bind_eq_ok, stringOf_eq_ok_iff]
  constructor
  · intro h
    rcases h with ⟨name, rfl, h⟩
    split at h
    · next hname =>
      cases h
      rw [DateComponent.ofName?_eq_some_iff.mp hname]
    · cases h
  · rintro rfl
    exact ⟨c.name, rfl, by simp⟩

theorem relationOf_eq_ok_iff {r : Relation} : relationOf j = .ok r ↔ j = .string r.name := by
  simp only [relationOf, bind_eq_ok, stringOf_eq_ok_iff]
  constructor
  · intro h
    rcases h with ⟨name, rfl, h⟩
    split at h
    · next hname =>
      cases h
      rw [Relation.ofName?_eq_some_iff.mp hname]
    · cases h
  · rintro rfl
    exact ⟨r.name, rfl, by simp⟩

theorem patternOf_eq_ok_iff {p : HeaderPattern} :
    patternOf j = .ok p ↔ ∃ key, j = .string key ∧ HeaderPattern.ofKey key = .ok p := by
  simp only [patternOf, bind_eq_ok, stringOf_eq_ok_iff]
  refine exists_congr fun key => and_congr_right fun _ => ?_
  split <;> simp_all

theorem expectationOf_eq_ok_iff {e : Expectation} :
    expectationOf j = .ok e ↔
      (∃ flag, j = .bool flag ∧ e = .present flag) ∨ ∃ text, j = .string text ∧ e = .value text := by
  cases j <;> simp [expectationOf, eq_comm]

theorem wholeOf?_eq_some_iff_signed {n : Number} {i : ℤ} :
    wholeOf? n = some i ↔
      n.signed?.or (Binary.ofFloat n.toFloat).toSigned? = some i ∧ FitsDateValue i := by
  simp [wholeOf?, Option.filter_eq_some_iff, FitsDateValue]

/-- An integer beyond 64 bits does not come to have 32 bits by being brought to 64 of them. -/
theorem toSigned?_eq_some_iff {b : Binary} {i : ℤ} (h : FitsDateValue i) :
    b.toSigned? = some i ↔ b.toInt? = some i := by
  obtain ⟨hl, hu⟩ := h
  cases hb : b.toInt? with
  | none => simp [Binary.toSigned?, hb]
  | some k =>
    simp only [Binary.toSigned?, hb, Option.map_some, Option.some.injEq]
    omega

/-- The steps by which a number becomes a value of 32 bits lose nothing: it does exactly if its exact
value is one. -/
theorem wholeOf?_eq_some_iff {n : Number} {i : ℤ} :
    wholeOf? n = some i ↔ n.value = i ∧ FitsDateValue i := by
  rw [wholeOf?_eq_some_iff_signed, ← Number.toInt?_eq_some_iff]
  refine and_congr_left fun hfits => ?_
  cases n with
  | float x finite => simp [Number.signed?, Number.toFloat, Number.toInt?, toSigned?_eq_some_iff hfits]
  | integer k fits =>
    by_cases hk : k < 0x8000_0000_0000_0000
    · simp [Number.signed?, Number.toInt?, hk]
    · -- The nearest double is whole or infinite, and in any case far from 32 bits.
      have hne : k ≠ i := by
        obtain ⟨-, hu⟩ := hfits
        omega
      simp only [Number.signed?, Number.toInt?, Number.toFloat, hk, if_false, Option.none_or,
        toSigned?_eq_some_iff hfits, Option.some.injEq, hne, iff_false]
      intro hi
      have hlarge := Double.ofInt_large (by omega) (Double.ofInt_isFinite fits) hi
      obtain ⟨hl, hu⟩ := hfits
      omega

example : wholeOf? (.integer 0xFFFF_FFFF_FFFF_FFFF (by decide)) = none := by decide +kernel

example : wholeOf? (.float (-0.0) (by decide +kernel)) = some 0 := by decide +kernel

/-- The check of a value against the range of its component. -/
def rangeCheck (c : DateComponent) (value : ℤ) : Except ArgumentFault ℤ :=
  match c.range? with
  | some (least, greatest) =>
    if value < least ∨ greatest < value then .error (.outOfRange c least greatest) else .ok value
  | none => .ok value

theorem rangeCheck_eq_ok_iff {c : DateComponent} {value i : ℤ} :
    rangeCheck c value = .ok i ↔ value = i ∧ c.InRange i := by
  cases hr : c.range? with
  | none => simp [rangeCheck, DateComponent.InRange, hr]
  | some bounds =>
    simp only [rangeCheck, DateComponent.InRange, hr, Option.mem_def, Option.some.injEq, forall_eq']
    split_ifs with hout
    · simp only [false_iff, not_and]
      omega
    · simp only [Except.ok.injEq]
      omega

theorem dateValueOf_number (c : DateComponent) (n : Number) :
    dateValueOf c (.number n) = match wholeOf? n with
      | some i => rangeCheck c i
      | none => .error (.notWhole n) := by
  cases h : wholeOf? n <;> simp only [dateValueOf, h] <;> rfl

theorem dateValueOf_string (c : DateComponent) (text : String) :
    dateValueOf c (.string text) = match c.valueOfName? text with
      | some i => rangeCheck c i
      | none => .error (.unknownName text c) := by
  cases h : c.valueOfName? text <;> simp only [dateValueOf, h] <;> rfl

theorem dateValueOf_eq_ok_iff {c : DateComponent} {i : ℤ} :
    dateValueOf c j = .ok i ↔ c.Denotes j i := by
  constructor
  · intro h
    cases j with
    | number n =>
      rw [dateValueOf_number] at h
      split at h
      · next hwhole =>
        obtain ⟨rfl, range⟩ := rangeCheck_eq_ok_iff.mp h
        obtain ⟨whole, fits⟩ := wholeOf?_eq_some_iff.mp hwhole
        exact .number whole fits range
      · cases h
    | string text =>
      rw [dateValueOf_string] at h
      split at h
      · next hname =>
        obtain ⟨rfl, -⟩ := rangeCheck_eq_ok_iff.mp h
        exact .name (DateComponent.valueOfName?_eq_some_iff.mp hname)
      · cases h
    | _ => cases h
  · intro h
    cases h with
    | number whole fits range =>
      rw [dateValueOf_number, wholeOf?_eq_some_iff.mpr ⟨whole, fits⟩]
      exact rangeCheck_eq_ok_iff.mpr ⟨rfl, range⟩
    | name known =>
      rw [dateValueOf_string, DateComponent.valueOfName?_eq_some_iff.mpr known]
      exact rangeCheck_eq_ok_iff.mpr ⟨rfl, (DateComponent.inRange_of_mem_valueNames known).2⟩

/-! ## Arguments -/

theorem check_eq_ok_iff {α : Type} {k : LeafKey} {r : Except ArgumentFault α} {a : α} :
    check k r = .ok a ↔ r = .ok a :=
  mapError_eq_ok

/-- The reader of a leaf accepts exactly what the grammar allows under its key. -/
theorem ofArgument_eq_ok_iff {k : LeafKey} {l : Leaf} :
    ofArgument k j = .ok l ↔ Leaf.Denotes k j l := by
  constructor
  · intro h
    cases k with
    | amount =>
      simp only [ofArgument, check_eq_ok_iff, bind_eq_ok, elements_eq_ok_iff] at h
      obtain ⟨_, ⟨rfl, hlen⟩, h⟩ := h
      obtain ⟨_, _, rfl⟩ := List.length_eq_two.mp hlen
      simp only [bind_eq_ok, pure_eq_ok, operatorOf_eq_ok_iff, thresholdOf_eq_ok_iff] at h
      obtain ⟨op, ⟨name, known, rfl⟩, x, ⟨n, rfl, rfl⟩, rfl⟩ := h
      exact .amount known
    | date =>
      simp only [ofArgument, check_eq_ok_iff, bind_eq_ok, elements_eq_ok_iff] at h
      obtain ⟨_, ⟨rfl, hlen⟩, h⟩ := h
      obtain ⟨_, _, _, rfl⟩ := List.length_eq_three.mp hlen
      simp only [bind_eq_ok, pure_eq_ok, componentOf_eq_ok_iff, operatorOf_eq_ok_iff,
        dateValueOf_eq_ok_iff] at h
      obtain ⟨c, rfl, op, ⟨name, known, rfl⟩, i, hvalue, rfl⟩ := h
      exact .date known hvalue
    | time =>
      simp only [ofArgument, check_eq_ok_iff, bind_eq_ok, elements_eq_ok_iff] at h
      obtain ⟨⟨_, _⟩, ⟨_, ⟨rfl, hlen⟩, h⟩, htime⟩ := h
      obtain ⟨_, _, rfl⟩ := List.length_eq_two.mp hlen
      simp only [bind_eq_ok, pure_eq_ok, relationOf_eq_ok_iff, stringOf_eq_ok_iff,
        Prod.mk.injEq] at h
      obtain ⟨relation, rfl, text, rfl, rfl, rfl⟩ := h
      cases ht : TimeOfDay.ofText? text with
      | none => simp [ht] at htime
      | some time =>
        obtain rfl : Leaf.time time relation = l := by simpa [ht] using htime
        exact .time (TimeOfDay.ofText?_eq_some_iff.mp ht)
    | header =>
      simp only [ofArgument, check_eq_ok_iff, bind_eq_ok, elements_eq_ok_iff] at h
      obtain ⟨_, ⟨rfl, hlen⟩, h⟩ := h
      obtain ⟨_, _, rfl⟩ := List.length_eq_two.mp hlen
      simp only [bind_eq_ok, pure_eq_ok, patternOf_eq_ok_iff, expectationOf_eq_ok_iff] at h
      obtain ⟨p, ⟨key, rfl, accepted⟩, _, ⟨flag, rfl, rfl⟩ | ⟨text, rfl, rfl⟩, rfl⟩ := h
      · exact .presence accepted
      · exact .value accepted
    | currency | paymentMethod | placeType | placeTypeCategory =>
      simp only [ofArgument, check_eq_ok_iff, bind_eq_ok, pure_eq_ok, stringOf_eq_ok_iff] at h
      obtain ⟨text, rfl, rfl⟩ := h
      constructor
  · intro h
    cases h with
    | amount known =>
      simp [ofArgument, check_eq_ok_iff, elements, operatorOf_eq_ok_iff, thresholdOf, known]
    | date known hvalue =>
      simp only [ofArgument, check_eq_ok_iff, bind_eq_ok, elements_eq_ok_iff]
      refine ⟨_, ⟨rfl, rfl⟩, ?_⟩
      simp only [bind_eq_ok, componentOf_eq_ok_iff, operatorOf_eq_ok_iff, dateValueOf_eq_ok_iff]
      exact ⟨_, rfl, _, ⟨_, known, rfl⟩, _, hvalue, rfl⟩
    | time written =>
      simp [ofArgument, check_eq_ok_iff, elements, relationOf_eq_ok_iff, stringOf,
        TimeOfDay.ofText?_eq_some_iff.mpr written]
    | presence accepted | value accepted =>
      simp [ofArgument, check_eq_ok_iff, elements, patternOf_eq_ok_iff, expectationOf, accepted]
    | currency | paymentMethod | placeType | placeTypeCategory =>
      simp [ofArgument, check_eq_ok_iff, stringOf]

end Leaf

end ReceiptRules
