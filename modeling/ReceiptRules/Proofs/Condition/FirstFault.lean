import Mathlib.Logic.Function.Basic
import ReceiptRules.Proofs.Condition.ClockText
import ReceiptRules.Proofs.Condition.Grammar

/-!
# The first fault of a spec

An error of a spec names a place. The place leads through combinations and negations to a part of the
spec, and in some cases on to what is under the key of that part. `ofSpec_error_place` says that the
written place is that of one part only, that this part fails by itself with the same fault, and that no
part in front of it fails.
-/

namespace ReceiptRules

/-! ## Written places -/

namespace Step

theorem bracket_notMem_name (k : Key) : '[' ∉ k.name.toList := by
  rcases k with (_ | _) | _ | (_ | _ | _ | _ | _ | _ | _ | _) <;> decide

theorem point_notMem_name (k : Key) : '.' ∉ k.name.toList := by
  rcases k with (_ | _) | _ | (_ | _ | _ | _ | _ | _ | _ | _) <;> decide

theorem notMem_toDigits {mark : Char} (h : mark.isDigit = false) (n : ℕ) :
    mark ∉ Nat.toDigits 10 n := by
  intro hmem
  have hdigit := Nat.isDigit_of_mem_toDigits (by omega) (by omega) hmem
  rw [h] at hdigit
  cases hdigit

theorem pieces_text_key (k : Key) : Text.pieces '[' (key k).text.toList = [k.name.toList] :=
  Text.pieces_of_notMem (bracket_notMem_name k)

theorem pieces_text_item (op : Combinator) (index : ℕ) :
    Text.pieces '[' (item op index).text.toList =
      [op.name.toList, Nat.toDigits 10 index ++ [']']] := by
  have htext : (item op index).text.toList =
      op.name.toList ++ '[' :: (Nat.toDigits 10 index ++ [']']) := by
    simp [text]
  have hdigits : '[' ∉ Nat.toDigits 10 index ++ [']'] := by
    simp [notMem_toDigits]
  have hop : '[' ∉ op.name.toList := bracket_notMem_name (.combinator op)
  rw [htext, Text.pieces_append_cons hop, Text.pieces_of_notMem hdigits]

/-- A step can be told from its text: the bracket parts the key from the index. -/
theorem text_injective : Function.Injective text := by
  intro s t h
  have hpieces := congrArg (fun u : String => Text.pieces '[' u.toList) h
  cases s with
  | key k =>
    cases t with
    | key k' =>
      simp only [pieces_text_key, List.cons.injEq, String.toList_inj] at hpieces
      rw [Key.name_injective hpieces.1]
    | item op index => simp [pieces_text_key, pieces_text_item] at hpieces
  | item op index =>
    cases t with
    | key k => simp [pieces_text_key, pieces_text_item] at hpieces
    | item op' index' =>
      simp only [pieces_text_item, List.cons.injEq, String.toList_inj] at hpieces
      obtain ⟨hop, hdigits, -⟩ := hpieces
      have hkey : Key.combinator op = .combinator op' := Key.name_injective hop
      have hindex := congrArg (Nat.ofDigitChars 10 · 0) (List.append_cancel_right hdigits)
      simp only [Nat.ofDigitChars_ten_toDigits] at hindex
      rw [Key.combinator.inj hkey, hindex]

theorem point_notMem_text (s : Step) : '.' ∉ s.text.toList := by
  cases s with
  | key k => exact point_notMem_name k
  | item op index =>
    have hop : '.' ∉ op.name.toList := point_notMem_name (.combinator op)
    simp [text, hop, notMem_toDigits]

theorem text_ne_empty (s : Step) : s.text ≠ "" := by
  cases s with
  | key k => rcases k with (_ | _) | _ | (_ | _ | _ | _ | _ | _ | _ | _) <;> decide
  | item op index => simp [text]

end Step

/-- The points in a written place part its steps. -/
theorem pieces_placeText (s : Step) (place : List Step) :
    Text.pieces '.' (placeText (s :: place)).toList =
      (s :: place).map fun s => s.text.toList := by
  have hpoint : ".".toList = ['.'] := rfl
  induction place generalizing s with
  | nil => simpa [placeText] using Text.pieces_of_notMem s.point_notMem_text
  | cons t place ih =>
    have htext : (placeText (s :: t :: place)).toList =
        s.text.toList ++ '.' :: (placeText (t :: place)).toList := by
      simp [placeText, String.toList_intercalate, hpoint]
    rw [htext, Text.pieces_append_cons s.point_notMem_text, ih]
    rfl

theorem placeText_cons_ne_empty (s : Step) (place : List Step) : placeText (s :: place) ≠ "" := by
  intro h
  have hpieces := pieces_placeText s place
  rw [h] at hpieces
  have hhead : [] = s.text.toList := (List.cons.inj hpieces).1
  exact s.text_ne_empty (String.toList_inj.mp hhead.symm)

/-- A place can be told from its text. -/
theorem placeText_injective : Function.Injective placeText := by
  intro p q h
  match p, q with
  | [], [] => rfl
  | [], t :: q => exact absurd h.symm (placeText_cons_ne_empty t q)
  | s :: p, [] => exact absurd h (placeText_cons_ne_empty s p)
  | s :: p, t :: q =>
    have hpieces := congrArg (fun u : String => Text.pieces '.' u.toList) h
    simp only [pieces_placeText] at hpieces
    refine List.map_injective_iff.mpr ?_ hpieces
    exact fun s t h => Step.text_injective (String.toList_inj.mp h)

/-! ## Parts of specs -/

namespace Json

/-- The part of a spec at a place, if the steps to it lead through combinations and negations only. -/
def part? : Json → List Step → Option Json
  | j, [] => some j
  | object [(name, j)], .key .not :: place => if name = Key.not.name then j.part? place else none
  | object [(name, array items)], .item op index :: place =>
    if name = op.name then
      match items[index]? with
      | some item => item.part? place
      | none => none
    else none
  | _, _ => none

@[simp] theorem part?_nil (j : Json) : j.part? [] = some j := by
  cases j <;> rfl

@[simp] theorem part?_not (j : Json) (place : List Step) :
    (object [(Key.not.name, j)]).part? (.key .not :: place) = j.part? place := by
  simp [part?]

theorem part?_item {items : List Json} {index : ℕ} {item : Json} (h : items[index]? = some item)
    (op : Combinator) (place : List Step) :
    (object [(op.name, array items)]).part? (.item op index :: place) = item.part? place := by
  simp [part?, h]

end Json

/-! ## Own faults -/

namespace SpecFault

/-- The key of a spec, if the fault is in what is under it. -/
def key? : SpecFault → Option Key
  | notConditions op => some (.combinator op)
  | badArgument k _ => some (.leaf k)
  | badTime _ => some (.leaf .time)
  | _ => none

/-- The steps from a spec to a fault of its own. -/
def steps (fault : SpecFault) : List Step := (fault.key?.map Step.key).toList

theorem steps_of_none {fault : SpecFault} (h : fault.key? = none) : fault.steps = [] := by
  simp [steps, h]

theorem steps_of_some {fault : SpecFault} {k : Key} (h : fault.key? = some k) :
    fault.steps = [.key k] := by
  simp [steps, h]

end SpecFault

theorem Leaf.key?_of_check {α : Type} {k : LeafKey} {r : Except ArgumentFault α} {fault : SpecFault}
    (h : check k r = .error fault) : fault.key? = some (.leaf k) := by
  obtain ⟨a, -, rfl⟩ := mapError_eq_error.mp h
  rfl

theorem Leaf.key?_of_ofArgument {k : LeafKey} {argument : Json} {fault : SpecFault}
    (h : ofArgument k argument = .error fault) : fault.key? = some (.leaf k) := by
  cases k with
  | time =>
    rw [ofArgument, bind_eq_error] at h
    rcases h with h | ⟨⟨relation, text⟩, -, h⟩
    · exact key?_of_check h
    · dsimp only at h
      split at h <;> cases h
      rfl
  | _ => exact key?_of_check h

namespace Condition

variable {j : Json} {e : SpecError}

/-- How a spec fails: by a fault of its own, or by the fault of a spec in it. -/
inductive Fails : Json → SpecError → Prop
  | whole {j : Json} {fault : SpecFault} (own : fault.key? = none)
      (of_value : ∀ e, fault ≠ .unreadable e) : Fails j ⟨fault, []⟩
  | under {value : Json} {fault : SpecFault} {k : Key} (own : fault.key? = some k) :
      Fails (.object [(k.name, value)]) ⟨fault, [.key k]⟩
  | not {j : Json} {inner : SpecError} (fails : ofSpec j = .error inner) :
      Fails (.object [(Key.not.name, j)]) (inner.within (.key .not))
  | item {op : Combinator} {items : List Json} {index : ℕ} {item : Json} {inner : SpecError}
      (is_item : items[index]? = some item) (fails : ofSpec item = .error inner)
      (before : ∀ i < index, ∃ item c, items[i]? = some item ∧ ofSpec item = .ok c) :
      Fails (.object [(op.name, .array items)]) (inner.within (.item op index))

theorem exists_of_ofSpecs_eq_error {op : Combinator} {start : ℕ} {items : List Json}
    (h : ofSpecs op start items = .error e) :
    ∃ index item inner, items[index]? = some item ∧ ofSpec item = .error inner ∧
      (∀ i < index, ∃ item c, items[i]? = some item ∧ ofSpec item = .ok c) ∧
      e = inner.within (.item op (start + index)) := by
  induction items generalizing start with
  | nil => cases h
  | cons item items ih =>
    rw [ofSpecs, bind_eq_error] at h
    rcases h with h | ⟨c, hc, h⟩
    · obtain ⟨inner, hinner, rfl⟩ := mapError_eq_error.mp h
      exact ⟨0, item, inner, rfl, hinner, by simp, rfl⟩
    · rcases bind_eq_error.mp h with h | ⟨cs, -, h⟩
      · obtain ⟨index, item', inner, hindex, hinner, hbefore, rfl⟩ := ih h
        refine ⟨index + 1, item', inner, hindex, hinner, ?_, ?_⟩
        · rintro (_ | i) hi
          · exact ⟨item, c, rfl, mapError_eq_ok.mp hc⟩
          · exact hbefore i (by omega)
        · rw [Nat.add_right_comm, Nat.add_assoc]
      · cases h

/-- The cases are those of the reader, in its order: no entry, an entry under an unknown key, a list
under a combinator and anything else there, a negation, a leaf, several entries, null, and any other
value. -/
theorem fails_of_ofSpec (h : ofSpec j = .error e) : Fails j e := by
  fun_cases ofSpec j with
  | case1 =>
    cases h
    exact .whole rfl (by simp)
  | case2 name value hname =>
    rw [ofSpec, hname] at h
    cases h
    exact .whole rfl (by simp)
  | case3 name op hname items =>
    obtain rfl : (Key.combinator op).name = name := Key.name_of_ofName? hname
    rw [ofSpec, hname] at h
    obtain ⟨index, item, inner, hindex, hinner, hbefore, rfl⟩ :=
      exists_of_ofSpecs_eq_error (map_eq_error.mp h)
    rw [Nat.zero_add]
    exact .item hindex hinner hbefore
  | case4 name op hname value hvalue =>
    obtain rfl : (Key.combinator op).name = name := Key.name_of_ofName? hname
    rw [ofSpec, hname] at h
    cases value with
    | array items => exact absurd rfl (hvalue items)
    | _ =>
      cases h
      exact .under (k := .combinator op) rfl
  | case5 name value hname =>
    obtain rfl : Key.not.name = name := Key.name_of_ofName? hname
    rw [ofSpec, hname] at h
    obtain ⟨inner, hinner, rfl⟩ := mapError_eq_error.mp h
    exact .not (map_eq_error.mp hinner)
  | case6 name value k hname =>
    obtain rfl : (Key.leaf k).name = name := Key.name_of_ofName? hname
    rw [ofSpec, hname] at h
    obtain ⟨fault, hfault, rfl⟩ := mapError_eq_error.mp h
    exact .under (Leaf.key?_of_ofArgument (map_eq_error.mp hfault))
  | case7 entries hnil hone =>
    rw [ofSpec] at h
    · cases h
      exact .whole rfl (by simp)
    all_goals assumption
  | case8 =>
    cases h
    exact .whole rfl (by simp)
  | case9 hnil hone hobject hnull =>
    rw [ofSpec] at h
    · cases h
      exact .whole rfl (by simp)
    all_goals assumption

/-- A value is no text, so its faults are not those of a text. -/
theorem Fails.ne_unreadable (h : Fails j e) (hplace : e.place = []) (x : Json5.Error) :
    e.fault ≠ .unreadable x := by
  cases h with
  | whole own of_value => exact of_value x
  | under own => cases hplace
  | not fails => cases hplace
  | item is_item fails before => cases hplace

/-! ## The first fault -/

/-- In every list that a place leads through, the items in front of the one it leads to are specs without
faults. -/
def Leftmost (j : Json) (position : List Step) : Prop :=
  ∀ before op index after, position = before ++ .item op index :: after →
    ∀ i < index, ∃ item c, j.part? (before ++ [.item op i]) = some item ∧ ofSpec item = .ok c

theorem leftmost_nil : Leftmost j [] := by
  intro before op index after h
  simp at h

theorem Leftmost.not {position : List Step} (h : Leftmost j position) :
    Leftmost (.object [(Key.not.name, j)]) (.key .not :: position) := by
  intro before op index after heq i hi
  match before with
  | [] => cases heq
  | s :: before =>
    obtain ⟨rfl, htail⟩ := List.cons.inj heq
    rw [List.cons_append, Json.part?_not]
    exact h before op index after htail i hi

theorem Leftmost.item {op : Combinator} {items : List Json} {index : ℕ} {item : Json}
    {position : List Step} (hindex : items[index]? = some item)
    (hbefore : ∀ i < index, ∃ item c, items[i]? = some item ∧ ofSpec item = .ok c)
    (h : Leftmost item position) :
    Leftmost (.object [(op.name, .array items)]) (.item op index :: position) := by
  intro before op' index' after heq i hi
  match before with
  | [] =>
    cases heq
    obtain ⟨item', c, hitem, hc⟩ := hbefore i hi
    exact ⟨item', c, Json.part?_item hitem op [] ▸ Json.part?_nil item', hc⟩
  | s :: before =>
    obtain ⟨rfl, htail⟩ := List.cons.inj heq
    rw [List.cons_append, Json.part?_item hindex]
    exact h before op' index' after htail i hi

/-- What the text of a place names: the part of the spec that the steps lead to, or what is under the
key of that part if the fault is there. -/
structure Names (j : Json) (fault : SpecFault) (place : String) (position : List Step)
    (found : Json) : Prop where
  part : j.part? position = some found
  key : ∀ k, fault.key? = some k → ∃ value, found = .object [(k.name, value)]
  text : place = placeText (position ++ fault.steps)

theorem Names.unique {fault : SpecFault} {place : String} {p q : List Step} {found found' : Json}
    (h : Names j fault place p found) (h' : Names j fault place q found') :
    q = p ∧ found' = found := by
  have hplace : q ++ fault.steps = p ++ fault.steps :=
    placeText_injective (h'.text.symm.trans h.text)
  obtain rfl := List.append_cancel_right hplace
  exact ⟨rfl, Option.some.inj (h'.part.symm.trans h.part)⟩

/-- What is known of the part at which a spec fails. -/
structure FailsAt (j : Json) (e : SpecError) (position : List Step) (found : Json) : Prop where
  part : j.part? position = some found
  key : ∀ k, e.fault.key? = some k → ∃ value, found = .object [(k.name, value)]
  place : e.place = position ++ e.fault.steps
  alone : ofSpec found = .error ⟨e.fault, e.fault.steps⟩
  leftmost : Leftmost j position

theorem FailsAt.not {inner : SpecError} {position : List Step} {found : Json}
    (h : FailsAt j inner position found) :
    FailsAt (.object [(Key.not.name, j)]) (inner.within (.key .not)) (.key .not :: position) found where
  part := (Json.part?_not j position).trans h.part
  key := h.key
  place := congrArg (Step.key .not :: ·) h.place
  alone := h.alone
  leftmost := h.leftmost.not

theorem FailsAt.item {op : Combinator} {items : List Json} {index : ℕ} {item : Json}
    {inner : SpecError} {position : List Step} {found : Json} (is_item : items[index]? = some item)
    (before : ∀ i < index, ∃ item c, items[i]? = some item ∧ ofSpec item = .ok c)
    (h : FailsAt item inner position found) :
    FailsAt (.object [(op.name, .array items)]) (inner.within (.item op index))
      (.item op index :: position) found where
  part := (Json.part?_item is_item op position).trans h.part
  key := h.key
  place := congrArg (Step.item op index :: ·) h.place
  alone := h.alone
  leftmost := h.leftmost.item is_item before

/-- Each failure of a part takes one of the steps to the fault, on which the recursion is. -/
theorem exists_failsAt {j : Json} {e : SpecError} (h : ofSpec j = .error e) :
    ∃ position found, FailsAt j e position found := by
  cases fails_of_ofSpec h with
  | @whole _ fault own =>
    have hsteps := SpecFault.steps_of_none own
    refine ⟨[], j, ⟨Json.part?_nil j, fun k hk => ?_, hsteps.symm, ?_, leftmost_nil⟩⟩
    · rw [own] at hk
      cases hk
    · rw [h, hsteps]
  | @under value fault k own =>
    have hsteps := SpecFault.steps_of_some own
    refine ⟨[], _, ⟨Json.part?_nil _, fun k' hk' => ⟨value, ?_⟩, hsteps.symm, ?_, leftmost_nil⟩⟩
    · rw [own] at hk'
      rw [Option.some.inj hk']
    · rw [h, hsteps]
  | not fails =>
    obtain ⟨position, found, hfound⟩ := exists_failsAt fails
    exact ⟨_, found, hfound.not⟩
  | item is_item fails before =>
    obtain ⟨position, found, hfound⟩ := exists_failsAt fails
    exact ⟨_, found, hfound.item is_item before⟩
termination_by e.place.length
decreasing_by
  all_goals
    subst_vars
    exact Nat.lt_succ_self _

/-- The first fault of a spec is named by its place: there is one part of the spec to which the steps of
the written place lead, this part by itself fails with the same fault at the rest of the place, and all
items in front of it, in every list on the way, are specs of conditions. -/
theorem ofSpec_error_place (h : ofSpec j = .error e) :
    ∃ position found,
      Names j e.fault (placeText e.place) position found ∧
        (∀ other found', Names j e.fault (placeText e.place) other found' →
          other = position ∧ found' = found) ∧
        e.place = position ++ e.fault.steps ∧
        ofSpec found = .error ⟨e.fault, e.fault.steps⟩ ∧ Leftmost j position := by
  obtain ⟨position, found, hfound⟩ := exists_failsAt h
  have hnames : Names j e.fault (placeText e.place) position found :=
    ⟨hfound.part, hfound.key, congrArg placeText hfound.place⟩
  exact ⟨position, found, hnames, fun _ _ hother => hnames.unique hother, hfound.place, hfound.alone,
    hfound.leftmost⟩

/-- A spec whose second part fails in its leaf, and whose third part would fail, too. -/
def faultySpec : Json :=
  .object [("$and", .array [.object [("currency", .string "EUR")],
    .object [("$not", .object [("amount", .array [.string "~", .null])])], .null])]

def faultyPlace : List Step := [.item .all 1, .key .not, .key (.leaf .amount)]

theorem ofSpec_faultySpec_place :
    ofSpec faultySpec = .error ⟨.badArgument .amount (.unknownOperator "~"), faultyPlace⟩ ∧
      ∃ position found,
        Names faultySpec (.badArgument .amount (.unknownOperator "~")) (placeText faultyPlace) position
            found ∧
          (∀ other found', Names faultySpec (.badArgument .amount (.unknownOperator "~"))
            (placeText faultyPlace) other found' → other = position ∧ found' = found) ∧
          faultyPlace = position ++ [.key (.leaf .amount)] ∧
          ofSpec found =
            .error ⟨.badArgument .amount (.unknownOperator "~"), [.key (.leaf .amount)]⟩ ∧
          Leftmost faultySpec position :=
  ⟨rfl, ofSpec_error_place (e := ⟨.badArgument .amount (.unknownOperator "~"), faultyPlace⟩) rfl⟩

end Condition

end ReceiptRules
