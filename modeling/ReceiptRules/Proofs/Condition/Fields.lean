import Mathlib.Data.Int.Notation
import Mathlib.Tactic.Common
import ReceiptRules.Proofs.Condition.Evaluation

/-!
# What conditions look at

A leaf looks at the part of a receipt that its key stands for, and at nothing else. So a condition says
the same of two receipts that agree on the parts its leaves look at (`holds_eq_of_agrees`).

A missing part makes a leaf false, whatever its operator, unless it is one that says that no line of the
header has a key. So a condition without such leaves and without negation goes on to hold when more of the
receipt becomes known (`holds_of_extends`).
-/

namespace ReceiptRules

variable {r r' : Receipt} {l : Leaf} {c : Condition}

/-- The hour, minute and second that a clock shows. -/
def ClockTime.shown (t : ClockTime) : ℕ × ℕ × ℕ := (t.hour, t.minute, t.second)

theorem TimeOfDay.holds_eq_of_shown {actual actual' : ClockTime} (h : actual.shown = actual'.shown)
    (t : TimeOfDay) (relation : Relation) : t.holds relation actual = t.holds relation actual' := by
  simp only [ClockTime.shown, Prod.mk.injEq] at h
  obtain ⟨hhour, hminute, hsecond⟩ := h
  simp only [holds, compare, hhour, hminute, hsecond]

theorem any_of_forall_mem {α : Type} {o o' : Option α} {p : α → Bool} (h : ∀ a ∈ o, a ∈ o')
    (hp : o.any p = true) : o'.any p = true := by
  rw [Option.any_eq_true] at hp ⊢
  obtain ⟨a, ha, hp⟩ := hp
  exact ⟨a, h a ha, hp⟩

namespace Receipt

/-- The date of the timestamp, if the receipt has one. -/
def date? (r : Receipt) : Option Date := r.timestamp.map Timestamp.date

/-- What a clock shows at the timestamp, if the receipt has one. -/
def clock? (r : Receipt) : Option (ℕ × ℕ × ℕ) := r.timestamp.map fun t => t.time.shown

/-- Whether two receipts are the same in the part that leaves with a key look at. Of the header this is
the set of lines. -/
def AgreesOn (r r' : Receipt) : LeafKey → Prop
  | .amount => r.amountValue? = r'.amountValue?
  | .currency => r.currency? = r'.currency?
  | .date => r.date? = r'.date?
  | .time => r.clock? = r'.clock?
  | .header => ∀ line, line ∈ r.header ↔ line ∈ r'.header
  | .paymentMethod => r.paymentMethod = r'.paymentMethod
  | .placeType => r.placeType? = r'.placeType?
  | .placeTypeCategory => r.placeTypeCategory? = r'.placeTypeCategory?

/-- Whether a receipt has all that another has, and perhaps more. -/
structure Extends (r' r : Receipt) : Prop where
  amountValue : ∀ value ∈ r.amountValue?, value ∈ r'.amountValue?
  currency : ∀ code ∈ r.currency?, code ∈ r'.currency?
  timestamp : ∀ t ∈ r.timestamp, t ∈ r'.timestamp
  paymentMethod : ∀ method ∈ r.paymentMethod, method ∈ r'.paymentMethod
  placeType : ∀ type ∈ r.placeType?, type ∈ r'.placeType?
  placeTypeCategory : ∀ category ∈ r.placeTypeCategory?, category ∈ r'.placeTypeCategory?
  header : ∀ line ∈ r.header, line ∈ r'.header

/-- A search through the lines of the header does not depend on their order. -/
theorem any_header_eq (h : r.AgreesOn r' .header) (p : String → Bool) :
    r.header.any p = r'.header.any p := by
  rw [Bool.eq_iff_iff, List.any_eq_true, List.any_eq_true]
  exact exists_congr fun line => and_congr_left' (h line)

theorem Extends.any_header (h : r'.Extends r) {p : String → Bool} (hp : r.header.any p = true) :
    r'.header.any p = true := by
  rw [List.any_eq_true] at hp ⊢
  obtain ⟨line, hline, hp⟩ := hp
  exact ⟨line, h.header line hline, hp⟩

end Receipt

/-! ## Receipts that agree -/

namespace Leaf

theorem holds_date (component : DateComponent) (op : Operator) (value : ℤ) :
    (date component op value).holds r =
      r.date?.any fun d => op.holdsOfInts (component.extract d) value := by
  rw [holds, Receipt.date?, Option.any_map]

theorem holds_congr (h : r.AgreesOn r' l.key) : l.holds r = l.holds r' := by
  cases l with
  | amount op threshold =>
    have h : r.amountValue? = r'.amountValue? := h
    rw [holds, holds, h]
  | currency code =>
    have h : r.currency? = r'.currency? := h
    rw [holds, holds, h]
  | date component op value =>
    have h : r.date? = r'.date? := h
    rw [holds_date, holds_date, h]
  | time t relation =>
    have h : r.timestamp.map (fun t => t.time.shown) = r'.timestamp.map fun t => t.time.shown := h
    rw [holds, holds]
    cases ht : r.timestamp with
    | none =>
      rw [ht, Option.map_none, eq_comm, Option.map_eq_none_iff] at h
      rw [h]
    | some actual =>
      rw [ht, Option.map_some, eq_comm, Option.map_eq_some_iff] at h
      obtain ⟨actual', ht', hshown⟩ := h
      rw [ht', Option.any_some, Option.any_some, TimeOfDay.holds_eq_of_shown hshown]
  | header pattern expected =>
    cases expected with
    | present flag => rw [holds, holds, Receipt.any_header_eq h]
    | value text => rw [holds, holds, Receipt.any_header_eq h]
  | paymentMethod method =>
    have h : r.paymentMethod = r'.paymentMethod := h
    rw [holds, holds, h]
  | placeType type =>
    have h : r.placeType? = r'.placeType? := h
    rw [holds, holds, h]
  | placeTypeCategory category =>
    have h : r.placeTypeCategory? = r'.placeTypeCategory? := h
    rw [holds, holds, h]

end Leaf

namespace Condition

/-- A condition says the same of two receipts that agree on the parts its leaves look at, whatever else is
in them. -/
theorem holds_eq_of_agrees (h : ∀ l ∈ c.leaves, r.AgreesOn r' l.key) : c.holds r = c.holds r' := by
  induction c using Condition.induction with
  | combination op cs ih =>
    rw [leaves, allLeaves_eq_flatMap, List.forall_mem_flatMap] at h
    apply holds_combination_congr
    exact exists_congr fun c => and_congr_right fun hc => by rw [ih c hc (h c hc)]
  | not c ih => rw [holds_not, holds_not, ih h]
  | leaf l =>
    rw [holds_leaf, holds_leaf]
    exact Leaf.holds_congr (h l (by simp [leaves]))

/-- A condition on the amount, the day and the header of a receipt. -/
def ofThisDay : Condition :=
  .combination .all [.leaf (.amount .notEqual 0), .not (.leaf (.date .day .greater 10)),
    .combination .any [.leaf (.header ⟨"table", _, rfl⟩ (.value "12"))]]

/-- A receipt from noon. -/
def noonReceipt : Receipt where
  amount := some ⟨some 5, some "EUR"⟩
  timestamp := some ⟨⟨2024, 3, 10, by decide⟩, ⟨12, 0, 0, 0, by decide⟩⟩
  header := ["Table: 12", "Bakery"]

/-- A receipt from a leap second of the same day, with the same lines in another order. -/
def lateReceipt : Receipt where
  amount := some ⟨some 5, none⟩
  timestamp := some ⟨⟨2024, 3, 10, by decide⟩, ⟨23, 59, 59, 1_500_000_000, by decide⟩⟩
  paymentMethod := some "CASH"
  header := ["Bakery", "Table: 12", "Bakery"]
  place := some ⟨some "bar", none⟩

theorem noonReceipt_agreesOn : ∀ l ∈ ofThisDay.leaves, noonReceipt.AgreesOn lateReceipt l.key := by
  have hheader : ∀ line, line ∈ noonReceipt.header ↔ line ∈ lateReceipt.header := by
    intro line
    simp only [noonReceipt, lateReceipt, List.mem_cons, List.not_mem_nil, or_false]
    tauto
  simpa [ofThisDay, leaves, Leaf.key, Receipt.AgreesOn] using ⟨rfl, rfl, hheader⟩

theorem holds_lateReceipt :
    (∀ l ∈ ofThisDay.leaves, noonReceipt.AgreesOn lateReceipt l.key) ∧
      ofThisDay.holds noonReceipt = ofThisDay.holds lateReceipt :=
  ⟨noonReceipt_agreesOn, holds_eq_of_agrees noonReceipt_agreesOn⟩

end Condition

/-! ## Receipts that become more complete -/

namespace Leaf

/-- A leaf that does not say that something is missing. -/
def Positive : Leaf → Prop
  | header _ (.present flag) => flag = true
  | _ => True

theorem holds_mono (hl : l.Positive) (h : r'.Extends r) (hr : l.holds r = true) :
    l.holds r' = true := by
  cases l with
  | amount op threshold => exact any_of_forall_mem h.amountValue hr
  | currency code => exact beq_iff_eq.mpr (h.currency code (beq_iff_eq.mp hr))
  | date component op value => exact any_of_forall_mem h.timestamp hr
  | time t relation => exact any_of_forall_mem h.timestamp hr
  | header pattern expected =>
    cases expected with
    | present flag =>
      obtain rfl : flag = true := hl
      exact beq_iff_eq.mpr (h.any_header (beq_iff_eq.mp hr))
    | value text => exact h.any_header hr
  | paymentMethod method => exact beq_iff_eq.mpr (h.paymentMethod method (beq_iff_eq.mp hr))
  | placeType type => exact beq_iff_eq.mpr (h.placeType type (beq_iff_eq.mp hr))
  | placeTypeCategory category =>
    exact beq_iff_eq.mpr (h.placeTypeCategory category (beq_iff_eq.mp hr))

end Leaf

namespace Condition

/-- The conditions without negations, and without leaves that say that no line has a key. -/
inductive Positive : Condition → Prop
  | combination {op : Combinator} {cs : List Condition} (members : ∀ c ∈ cs, Positive c) :
      Positive (.combination op cs)
  | leaf {l : Leaf} (positive : l.Positive) : Positive (.leaf l)

/-- A positive condition that holds of a receipt holds of every receipt that has as much and more. -/
theorem holds_of_extends (hc : c.Positive) (h : r'.Extends r) (hr : c.holds r = true) :
    c.holds r' = true := by
  induction hc with
  | @combination op cs _ ih =>
    cases op with
    | all =>
      rw [holds_all, List.all_eq_true] at hr ⊢
      exact fun c hc => ih c hc (hr c hc)
    | any =>
      rw [holds_any, List.any_eq_true] at hr ⊢
      obtain ⟨c, hc, hr⟩ := hr
      exact ⟨c, hc, ih c hc hr⟩
  | leaf hl =>
    rw [holds_leaf] at hr ⊢
    exact Leaf.holds_mono hl h hr

/-- A condition on the amount and on the header or the place of a receipt. -/
def billForTable : Condition :=
  .combination .all [.leaf (.amount .notEqual 0),
    .combination .any [.leaf (.placeType "cafe"), .leaf (.header ⟨"table", _, rfl⟩ (.present true))]]

/-- A receipt of which less is known than of `lateReceipt`. -/
def partialReceipt : Receipt where
  amount := some ⟨some 5, none⟩
  header := ["Table: 12"]

theorem billForTable_positive : billForTable.Positive := by
  refine .combination (List.forall_mem_cons.mpr ⟨.leaf trivial, List.forall_mem_singleton.mpr ?_⟩)
  refine .combination (List.forall_mem_cons.mpr ⟨.leaf trivial, List.forall_mem_singleton.mpr ?_⟩)
  exact .leaf rfl

theorem lateReceipt_extends : lateReceipt.Extends partialReceipt := by
  constructor <;>
    simp [lateReceipt, partialReceipt, Receipt.amountValue?, Receipt.currency?, Receipt.placeType?,
      Receipt.placeTypeCategory?]

theorem billForTable_holds_lateReceipt :
    billForTable.Positive ∧ lateReceipt.Extends partialReceipt ∧
      billForTable.holds partialReceipt = true ∧ billForTable.holds lateReceipt = true := by
  have hpartial : billForTable.holds partialReceipt = true := by decide +kernel
  exact ⟨billForTable_positive, lateReceipt_extends, hpartial,
    holds_of_extends billForTable_positive lateReceipt_extends hpartial⟩

end Condition

end ReceiptRules
