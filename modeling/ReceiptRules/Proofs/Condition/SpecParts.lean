import ReceiptRules.Proofs.Condition.Leaves
import ReceiptRules.Proofs.Condition.RoundTrip
import ReceiptRules.Proofs.Json5.WrittenValue

/-!
# What is in the spec of a condition

The strings and numbers in the spec of a condition are those of its leaves, apart from keys and other
words that all specs are made of. So whether the text of a spec can be read is a matter of the texts and
thresholds that the leaves hold.
-/

namespace ReceiptRules

open Json (Plain)

namespace Leaf

/-- The texts that a leaf holds as they were given. -/
def texts : Leaf → List String
  | currency code => [code]
  | header pattern (.present _) => [pattern.source]
  | header pattern (.value text) => [pattern.source, text]
  | paymentMethod method => [method]
  | placeType type => [type]
  | placeTypeCategory category => [category]
  | amount .. | date .. | time .. => []

/-- The threshold of the leaf, if it has one, is read back as it is written. -/
def ReadsBack : Leaf → Prop
  | amount _ threshold => Decimal.ReadsBack threshold
  | _ => True

theorem plain_symbol (op : Operator) : Plain op.symbol := by
  cases op <;> decide

theorem plain_component (c : DateComponent) : Plain c.name := by
  cases c <;> decide

theorem plain_relation (r : Relation) : Plain r.name := by
  cases r <;> decide

theorem isSeparator_of_isDigit {c : Char} (h : c.isDigit = true) : Json.isSeparator c = false := by
  simp only [Json.isSeparator, Bool.or_eq_false_iff, beq_eq_false_iff_ne]
  constructor <;>
  · rintro rfl
    exact absurd h (by decide)

theorem plain_time (t : TimeOfDay) : Plain t.text := by
  have hpadded : ∀ n, (padded 2 n).any Json.isSeparator = false := fun n =>
    List.any_eq_false.mpr fun c hc => by simp [isSeparator_of_isDigit (isDigit_of_mem_padded hc)]
  have hcolon : Json.isSeparator ':' = false := rfl
  obtain ⟨hour, minute, second⟩ := t
  cases second <;>
    simp only [Plain, TimeOfDay.text, String.toList_ofList, List.any_append, List.any_cons, List.any_nil,
      hpadded, hcolon, Bool.or_false]

theorem canonical_ofFloat (x : Float) : (Json.ofFloat x).Canonical := by
  rw [Json.ofFloat]
  split_ifs <;> simp [Json.Canonical]

theorem canonical_ofInt (n : ℤ) : (Json.ofInt n).Canonical := by
  rw [Json.ofInt]
  split_ifs
  · simp [Json.Canonical]
  · exact canonical_ofFloat _

theorem canonical_argument (l : Leaf) : l.argument.Canonical := by
  cases l with
  | amount op x => simp [argument, Json.Canonical, Json.CanonicalItems, canonical_ofFloat]
  | date c op n => simp [argument, Json.Canonical, Json.CanonicalItems, canonical_ofInt]
  | time t r => simp [argument, Json.Canonical, Json.CanonicalItems]
  | header p e => cases e <;> simp [argument, Json.Canonical, Json.CanonicalItems]
  | currency | paymentMethod | placeType | placeTypeCategory => simp [argument, Json.Canonical]

theorem texts_ofFloat (x : Float) : (Json.ofFloat x).texts = [] := by
  rw [Json.ofFloat]
  split_ifs <;> rfl

theorem texts_ofInt (n : ℤ) : (Json.ofInt n).texts = [] := by
  rw [Json.ofInt]
  split_ifs
  · rfl
  · exact texts_ofFloat _

theorem plain_argument_iff (l : Leaf) :
    (∀ t ∈ l.argument.texts, Plain t) ↔ ∀ t ∈ l.texts, Plain t := by
  cases l with
  | amount op x => simp [argument, texts, Json.texts, Json.itemTexts, texts_ofFloat, plain_symbol]
  | date c op n =>
    simp [argument, texts, Json.texts, Json.itemTexts, texts_ofInt, plain_symbol, plain_component]
  | time t r => simp [argument, texts, Json.texts, Json.itemTexts, plain_relation, plain_time]
  | header p e => cases e <;> simp [argument, texts, Json.texts, Json.itemTexts]
  | currency | paymentMethod | placeType | placeTypeCategory => simp [argument, texts, Json.texts]

theorem numbers_ofFloat {P : Number → Prop} {x : Float} (h : ∀ finite, P (.float x finite)) :
    ∀ n ∈ (Json.ofFloat x).numbers, P n := by
  rw [Json.ofFloat]
  split_ifs with hfinite
  · simpa [Json.numbers] using h hfinite
  · simp [Json.numbers]

theorem numbers_ofInt {P : Number → Prop} {i : ℤ} (hfits : FitsDateValue i)
    (h : ∀ fits, P (.integer i fits)) : ∀ n ∈ (Json.ofInt i).numbers, P n := by
  rw [Json.ofInt, dif_pos (fitsInteger_of_fitsDateValue hfits)]
  simpa [Json.numbers] using h _

/-- What a well-formed leaf writes in numbers. -/
theorem forall_numbers_argument {P : Number → Prop} {l : Leaf} (hl : l.WellFormed)
    (hfloat : ∀ op x finite, l = amount op x → P (.float x finite))
    (hinteger : ∀ i fits, FitsDateValue i → P (.integer i fits)) : ∀ n ∈ l.argument.numbers, P n := by
  cases l with
  | amount op x =>
    simpa [argument, Json.numbers, Json.itemNumbers] using numbers_ofFloat fun f => hfloat op x f rfl
  | date c op i =>
    simpa [argument, Json.numbers, Json.itemNumbers] using
      numbers_ofInt hl.1 fun fits => hinteger i fits hl.1
  | time t r => simp [argument, Json.numbers, Json.itemNumbers]
  | header p e => cases e <;> simp [argument, Json.numbers, Json.itemNumbers]
  | currency | paymentMethod | placeType | placeTypeCategory => simp [argument, Json.numbers]

theorem isSigned_argument {l : Leaf} (hl : l.WellFormed) : ∀ n ∈ l.argument.numbers, n.IsSigned :=
  forall_numbers_argument hl (fun _ _ _ _ => trivial) fun i fits h => by
    obtain ⟨hlow, hhigh⟩ := h
    exact ⟨by omega, by omega⟩

theorem readsBack_argument {l : Leaf} (hl : l.WellFormed) (h : l.ReadsBack) :
    ∀ n ∈ l.argument.numbers, n.ReadsBack := by
  refine forall_numbers_argument hl ?_ fun _ _ _ => trivial
  rintro op x finite rfl
  exact h

end Leaf

namespace Condition

theorem canonical_toSpec (c : Condition) : c.toSpec.Canonical := by
  have hitems : ∀ js, (∀ j ∈ js, j.Canonical) → Json.CanonicalItems js := by
    intro js hjs
    induction js with
    | nil => trivial
    | cons j js ih =>
      obtain ⟨hj, hjs⟩ := List.forall_mem_cons.mp hjs
      exact ⟨hj, ih hjs⟩
  have hentry : ∀ key j, j.Canonical → (Json.object [(key, j)]).Canonical := fun key j hj => by
    simpa [Json.Canonical, Json.CanonicalEntries, Json.KeysAscend] using hj
  induction c using Condition.induction with
  | combination op cs ih =>
    rw [toSpec, toSpecs_eq_map]
    exact hentry _ _ (hitems _ (by simpa using ih))
  | not c ih => exact hentry _ _ ih
  | leaf l => exact hentry _ _ l.canonical_argument

theorem plain_key (k : Key) : Plain k.name := by
  rcases k with (_ | _) | _ | (_ | _ | _ | _ | _ | _ | _ | _) <;> decide

theorem plain_toSpec_iff (c : Condition) :
    (∀ t ∈ c.toSpec.texts, Plain t) ↔ ∀ l ∈ c.leaves, ∀ t ∈ l.texts, Plain t := by
  induction c using Condition.induction with
  | combination op cs ih =>
    have hkey : Plain op.name := plain_key (.combinator op)
    simp only [toSpec, toSpecs_eq_map, leaves, allLeaves_eq_flatMap, Json.texts, Json.entryTexts,
      Json.itemTexts_eq_flatMap, List.append_nil, List.forall_mem_cons, List.forall_mem_flatMap,
      List.forall_mem_map, hkey, true_and]
    exact forall₂_congr ih
  | not c ih =>
    have hkey := plain_key .not
    simpa [toSpec, leaves, Json.texts, Json.entryTexts, hkey] using ih
  | leaf l =>
    have hkey : Plain l.key.name := plain_key (.leaf l.key)
    simpa [toSpec, leaves, Json.texts, Json.entryTexts, hkey] using l.plain_argument_iff

theorem numbers_toSpec (c : Condition) :
    c.toSpec.numbers = c.leaves.flatMap fun l => l.argument.numbers := by
  induction c using Condition.induction with
  | combination op cs ih =>
    simp only [toSpec, toSpecs_eq_map, leaves, allLeaves_eq_flatMap, Json.numbers, Json.entryNumbers,
      Json.itemNumbers_eq_flatMap, List.append_nil, List.flatMap_map, List.flatMap_assoc]
    exact List.flatMap_congr ih
  | not c ih => simpa [toSpec, leaves, Json.numbers, Json.entryNumbers] using ih
  | leaf l => simp [toSpec, leaves, Json.numbers, Json.entryNumbers]

theorem wellFormed_iff (c : Condition) : c.WellFormed ↔ ∀ l ∈ c.leaves, l.WellFormed := by
  induction c using Condition.induction with
  | combination op cs ih =>
    simp only [wellFormed_combination, leaves, allLeaves_eq_flatMap, List.forall_mem_flatMap]
    exact forall₂_congr ih
  | not c ih => exact ih
  | leaf l => simp [leaves]

/-- The spec of a well-formed condition is read back from its tree if its thresholds are. -/
theorem toJson_tree_toSpec {c : Condition} (hc : c.WellFormed) (h : ∀ l ∈ c.leaves, l.ReadsBack) :
    c.toSpec.tree.toJson = .ok c.toSpec := by
  have hleaves := (wellFormed_iff c).mp hc
  have hreadsBack : ∀ n ∈ c.toSpec.numbers, n.ReadsBack := by
    rw [numbers_toSpec, List.forall_mem_flatMap]
    exact fun l hl => Leaf.readsBack_argument (hleaves l hl) (h l hl)
  have hsigned : ∀ n ∈ c.toSpec.numbers, n.IsSigned := by
    rw [numbers_toSpec, List.forall_mem_flatMap]
    exact fun l hl => Leaf.isSigned_argument (hleaves l hl)
  rw [Json.toJson_tree _ c.canonical_toSpec hreadsBack, if_pos hsigned]

end Condition

end ReceiptRules
