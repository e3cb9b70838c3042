import ReceiptRules.Proofs.Condition.LeafGrammar
import ReceiptRules.Proofs.Condition.Leaves
import ReceiptRules.Proofs.Double.WholeNumber

/-!
# The grammar of specs

`Condition.Denotes` relates a JSON value to the condition it is a spec of, with one rule for each kind of
key and no mention of the reader. Reading succeeds on exactly the related values, at any depth, and gives
only conditions that are well-formed: every threshold in them is finite, every date value in range and
every time one of the clock.
-/

namespace ReceiptRules

namespace Key

theorem name_injective : Function.Injective name := fun k k' h => by
  simpa using congrArg ofName? h

end Key

/-! ## Well-formed conditions -/

/-- A leaf that a spec can stand for. -/
def Leaf.WellFormed : Leaf → Prop
  | amount _ threshold => threshold.isFinite = true
  | date component _ value => FitsDateValue value ∧ component.InRange value
  | time t _ => t.IsValid
  | _ => True

theorem Leaf.Denotes.wellFormed {k : LeafKey} {j : Json} {l : Leaf} (h : Leaf.Denotes k j l) :
    l.WellFormed := by
  cases h with
  | @amount op name n known =>
    cases n with
    | integer i fits => exact Double.ofInt_isFinite fits
    | float x finite => exact finite
  | date known hvalue =>
    cases hvalue with
    | number whole fits range => exact ⟨fits, range⟩
    | name known => exact DateComponent.inRange_of_mem_valueNames known
  | time written => exact written.1
  | _ => trivial

namespace Condition

mutual

/-- Every leaf of the condition is well-formed. -/
def WellFormed : Condition → Prop
  | combination _ cs => AllWellFormed cs
  | not c => c.WellFormed
  | leaf l => l.WellFormed

def AllWellFormed : List Condition → Prop
  | [] => True
  | c :: cs => c.WellFormed ∧ AllWellFormed cs

end

@[simp] theorem allWellFormed_iff {cs : List Condition} :
    AllWellFormed cs ↔ ∀ c ∈ cs, c.WellFormed := by
  induction cs with
  | nil => simp [AllWellFormed]
  | cons c cs ih => simp [AllWellFormed, ih]

@[simp] theorem wellFormed_combination {op : Combinator} {cs : List Condition} :
    (combination op cs).WellFormed ↔ ∀ c ∈ cs, c.WellFormed := allWellFormed_iff

@[simp] theorem wellFormed_not {c : Condition} : (not c).WellFormed ↔ c.WellFormed := Iff.rfl

@[simp] theorem wellFormed_leaf {l : Leaf} : (leaf l).WellFormed ↔ l.WellFormed := Iff.rfl

/-! ## Specs -/

/-- The specs of a condition: objects with one entry, in which the arrays under `$and` and `$or` hold a
spec for each member, in the same order. -/
inductive Denotes : Json → Condition → Prop
  | combination {op : Combinator} {items : List Json} {cs : List Condition}
      (members : List.Forall₂ Denotes items cs) :
      Denotes (.object [(op.name, .array items)]) (.combination op cs)
  | not {j : Json} {c : Condition} (inner : Denotes j c) :
      Denotes (.object [(Key.not.name, j)]) (.not c)
  | leaf {k : LeafKey} {j : Json} {l : Leaf} (argument : Leaf.Denotes k j l) :
      Denotes (.object [(k.name, j)]) (.leaf l)

variable {j : Json} {c : Condition}

/-- What the rule of a key asks of the value under the key. -/
def DenotesUnder : Key → Json → Condition → Prop
  | .combinator op, j, c =>
    ∃ items cs, j = .array items ∧ List.Forall₂ Denotes items cs ∧ .combination op cs = c
  | .not, j, c => ∃ d, Denotes j d ∧ .not d = c
  | .leaf k, j, c => ∃ l, Leaf.Denotes k j l ∧ .leaf l = c

theorem denotes_iff :
    Denotes j c ↔
      ∃ (k : Key) (value : Json), j = .object [(k.name, value)] ∧ DenotesUnder k value c := by
  constructor
  · intro h
    cases h with
    | combination members => exact ⟨.combinator _, _, rfl, _, _, rfl, members, rfl⟩
    | not inner => exact ⟨.not, _, rfl, _, inner, rfl⟩
    | leaf argument => exact ⟨.leaf _, _, rfl, _, argument, rfl⟩
  · intro h
    rcases h with ⟨k, value, rfl, h⟩
    cases k with
    | combinator op =>
      obtain ⟨items, cs, rfl, members, rfl⟩ := h
      exact .combination members
    | not =>
      obtain ⟨d, inner, rfl⟩ := h
      exact .not inner
    | leaf k =>
      obtain ⟨l, argument, rfl⟩ := h
      exact .leaf argument

theorem denotes_object_iff {k : Key} : Denotes (.object [(k.name, j)]) c ↔ DenotesUnder k j c := by
  constructor
  · intro h
    obtain ⟨k', value, hentry, hunder⟩ := denotes_iff.mp h
    simp only [Json.object.injEq, List.cons.injEq, Prod.mk.injEq, and_true] at hentry
    obtain ⟨hname, rfl⟩ := hentry
    obtain rfl := Key.name_injective hname
    exact hunder
  · exact fun h => denotes_iff.mpr ⟨k, j, rfl, h⟩

/-- The reader and the grammar agree. The induction follows the reader, so that each way of it to refuse
a value is a case. -/
theorem ofSpec_eq_ok_iff_and :
    (∀ j c, ofSpec j = .ok c ↔ Denotes j c) ∧
      ∀ op index items cs, ofSpecs op index items = .ok cs ↔ List.Forall₂ Denotes items cs := by
  refine ofSpec.mutual_induct (fun j => ∀ c, ofSpec j = .ok c ↔ Denotes j c)
    (fun op index items => ∀ cs, ofSpecs op index items = .ok cs ↔ List.Forall₂ Denotes items cs)
    ?empty ?unknown ?combinator ?noList ?not ?leaf ?several ?null ?other ?nil ?cons
  case empty => simp [ofSpec, denotes_iff]
  case unknown =>
    intro name value hname c
    have hne : ∀ k : Key, name ≠ k.name := by
      rintro k rfl
      simp at hname
    rw [ofSpec, hname]
    simp [denotes_iff, hne]
  case combinator =>
    intro name op hname items ih c
    obtain rfl : (Key.combinator op).name = name := Key.name_of_ofName? hname
    rw [ofSpec, hname, denotes_object_iff]
    simp only [map_eq_ok, ih, DenotesUnder, Json.array.injEq]
    constructor
    · intro h
      rcases h with ⟨cs, members, rfl⟩
      exact ⟨items, cs, rfl, members, rfl⟩
    · intro h
      rcases h with ⟨_, cs, rfl, members, rfl⟩
      exact ⟨cs, members, rfl⟩
  case noList =>
    intro name op hname value hvalue c
    obtain rfl : (Key.combinator op).name = name := Key.name_of_ofName? hname
    rw [ofSpec, hname, denotes_object_iff]
    have hlist : ∀ items, value ≠ .array items := hvalue
    simp only [DenotesUnder, hlist]
    cases value with
    | array items => exact absurd rfl (hlist items)
    | _ => simp
  case not =>
    intro name value hname ih c
    obtain rfl : Key.not.name = name := Key.name_of_ofName? hname
    rw [ofSpec, hname, denotes_object_iff]
    simp only [mapError_eq_ok, map_eq_ok, ih, DenotesUnder]
  case leaf =>
    intro name value k hname c
    obtain rfl : (Key.leaf k).name = name := Key.name_of_ofName? hname
    rw [ofSpec, hname, denotes_object_iff]
    simp only [mapError_eq_ok, map_eq_ok, Leaf.ofArgument_eq_ok_iff, DenotesUnder]
  case several =>
    intro entries hnil hone c
    have hne : ∀ (k : Key) value, entries ≠ [(k.name, value)] := fun k value => hone k.name value
    rw [ofSpec]
    · simp [denotes_iff, hne]
    all_goals assumption
  case null => simp [ofSpec, denotes_iff]
  case other =>
    intro j hnil hone hobject hnull c
    have hne : ∀ (k : Key) value, j ≠ .object [(k.name, value)] := fun k value => hone k.name value
    rw [ofSpec]
    · simp [denotes_iff, hne]
    all_goals assumption
  case nil => simp [ofSpecs, eq_comm]
  case cons =>
    intro op index item items ihitem ihitems cs
    simp only [ofSpecs, bind_eq_ok, mapError_eq_ok, pure_eq_ok, ihitem, ihitems,
      List.forall₂_cons_left_iff]
    constructor
    · intro h
      rcases h with ⟨c, hc, cs, hcs, rfl⟩
      exact ⟨c, cs, hc, hcs, rfl⟩
    · intro h
      rcases h with ⟨c, cs, hc, hcs, rfl⟩
      exact ⟨c, hc, cs, hcs, rfl⟩

theorem ofSpec_eq_ok_iff : ofSpec j = .ok c ↔ Denotes j c := ofSpec_eq_ok_iff_and.1 j c

theorem Denotes.wellFormed (h : Denotes j c) : c.WellFormed := by
  induction c using Condition.induction generalizing j with
  | combination op cs ih =>
    cases h with | combination members =>
    have hspec : ∀ c ∈ cs, ∃ item, Denotes item c := by
      clear ih
      induction members with
      | nil => simp
      | cons hc _ ih =>
        rintro d (_ | ⟨_, hd⟩)
        · exact ⟨_, hc⟩
        · exact ih d hd
    rw [wellFormed_combination]
    intro c hc
    obtain ⟨item, hitem⟩ := hspec c hc
    exact ih c hc hitem
  | not c ih =>
    cases h with | not inner => exact ih inner
  | leaf l =>
    cases h with | leaf argument => exact argument.wellFormed

/-- Reading a spec succeeds on exactly the specs of the grammar, with the condition that the spec stands
for. On every other value it gives an error, and it never gives a condition that is not well-formed. -/
theorem ofSpec_accepts_grammar (j : Json) :
    (∀ c, ofSpec j = .ok c ↔ Denotes j c) ∧
      ((∀ c, ¬ Denotes j c) → ∃ e, ofSpec j = .error e) ∧
      ∀ c, ofSpec j = .ok c → c.WellFormed := by
  refine ⟨fun c => ofSpec_eq_ok_iff, fun hnone => ?_, fun c hc => ?_⟩
  · exact eq_error_of_ne_ok fun c hc => hnone c (ofSpec_eq_ok_iff.mp hc)
  · exact (ofSpec_eq_ok_iff.mp hc).wellFormed

end Condition

end ReceiptRules
